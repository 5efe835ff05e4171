import SourceDigest.Files.Memory
import SourceDigest.Proofs.Path.Names

namespace SourceDigest

namespace Path

def Below (p base : Path) : Prop := ∃ c cs, p.components = base.components ++ c :: cs

variable {p q r : Path}

theorem Below.congr {p' q' : Path} (h : p.Below q) (hp : p'.components = p.components)
    (hq : q'.components = q.components) : p'.Below q' := by
  obtain ⟨c, cs, h⟩ := h
  exact ⟨c, cs, by rw [hp, hq, h]⟩

theorem Below.length_lt (h : p.Below q) : q.components.length < p.components.length := by
  obtain ⟨c, cs, h⟩ := h
  rw [h, List.length_append, List.length_cons]
  omega

theorem Below.trans (h : p.Below q) (h' : q.Below r) : p.Below r := by
  obtain ⟨c, cs, h⟩ := h
  obtain ⟨d, ds, h'⟩ := h'
  exact ⟨d, ds ++ c :: cs, by rw [h, h', List.append_assoc, List.cons_append]⟩

theorem Below.ne (h : p.Below q) : p.components ≠ q.components :=
  fun he => Nat.lt_irrefl _ (he ▸ h.length_lt)

theorem startsWith_iff : p.startsWith q = true ↔ p.components = q.components ∨ p.Below q := by
  unfold startsWith Below
  rw [List.isPrefixOf_iff_prefix]
  constructor
  · rintro ⟨cs, hcs⟩
    cases cs with
    | nil => exact Or.inl (by rw [← hcs, List.append_nil])
    | cons c cs => exact Or.inr ⟨c, cs, hcs.symm⟩
  · rintro (h | ⟨c, cs, h⟩)
    · exact h ▸ List.prefix_rfl
    · exact ⟨c :: cs, h.symm⟩

theorem startsWith_or_below (h : p.Below q) (h' : p.Below r) :
    q.startsWith r = true ∨ r.Below q := by
  obtain ⟨c, cs, h⟩ := h
  obtain ⟨d, ds, h'⟩ := h'
  rcases List.prefix_or_prefix_of_prefix ⟨_, h.symm⟩ ⟨_, h'.symm⟩ with hpre | hpre
  · obtain ⟨_ | ⟨e, es⟩, he⟩ := hpre
    · exact Or.inl (startsWith_iff.2 (Or.inl (by rw [← he, List.append_nil])))
    · exact Or.inr ⟨e, es, he.symm⟩
  · exact Or.inl (List.isPrefixOf_iff_prefix.2 hpre)

theorem Below.not_startsWith (h : p.Below q) : ¬ q.startsWith p = true := by
  intro hqp
  rcases startsWith_iff.1 hqp with he | hbelow
  · exact h.ne he.symm
  · exact Nat.lt_asymm h.length_lt hbelow.length_lt

theorem Below.of_startsWith (h : p.Below q) (h' : q.startsWith r = true) : p.Below r := by
  rcases startsWith_iff.1 h' with he | hbelow
  · exact h.congr rfl he.symm
  · exact h.trans hbelow

theorem below_concat_iff {c : Component} (h : p.components = q.components ++ [c]) :
    p.Below r ↔ q.startsWith r = true := by
  have hpq : p.Below q := ⟨c, [], h⟩
  constructor
  · intro hpr
    rcases startsWith_or_below hpq hpr with hqr | hrq
    · exact hqr
    · have hlen := congrArg List.length h
      rw [List.length_append, List.length_singleton] at hlen
      have := hrq.length_lt
      have := hpr.length_lt
      omega
  · exact hpq.of_startsWith

instance : Decidable (p.Below q) :=
  decidable_of_iff (p.startsWith q = true ∧ p.components ≠ q.components) (by
    rw [startsWith_iff]
    constructor
    · rintro ⟨he | h, hne⟩
      · exact absurd he hne
      · exact h
    · intro h
      exact ⟨Or.inr h, h.ne⟩)

theorem stripBase?_eq_some_iff {base : Path} {cs : List Component} :
    stripBase? base p = some cs ↔ p.components = base.components ++ cs := by
  unfold stripBase? startsWith
  split
  · rename_i h
    obtain ⟨ds, hds⟩ := List.isPrefixOf_iff_prefix.1 h
    rw [← hds, List.drop_left, Option.some.injEq, List.append_cancel_left_eq]
  · rename_i h
    exact iff_of_false (by simp) fun hcs => h (List.isPrefixOf_iff_prefix.2 ⟨cs, hcs.symm⟩)

instance (p base : Path) : Decidable (p.TextBelow base) :=
  decidable_of_iff (∀ c ∈ (stripBase? base p).getD [], c.IsText) (by
    unfold TextBelow
    cases h : stripBase? base p with
    | none =>
      refine iff_of_true (by simp) fun cs hcs => ?_
      rw [stripBase?_eq_some_iff.2 hcs] at h
      cases h
    | some ds =>
      simp only [← stripBase?_eq_some_iff, h, Option.some.injEq, Option.getD_some, forall_eq'])

end Path

namespace Files.Memory

variable {m : Memory} {p q : Path}

def Apart (m : Memory) : Prop := ∀ f ∈ m.files, ∀ g ∈ m.files, ¬ g.1.Below f.1

def Normal (m : Memory) : Prop :=
  ∀ f ∈ m.files, ∀ c ∈ f.1.components, c ≠ Component.current ∧ c ≠ Component.parent

def IsFile (m : Memory) (p : Path) : Prop := ∃ f ∈ m.files, f.1.components = p.components

def IsDirectory (m : Memory) (p : Path) : Prop := ∃ f ∈ m.files, f.1.Below p

def TextBelow (m : Memory) (p : Path) : Prop := ∀ f ∈ m.files, f.1.TextBelow p

def ListableBelow (m : Memory) (p : Path) : Prop :=
  ∀ d : Path, d.Below p → m.IsDirectory d → m.isUnreadable d = false

theorem TextBelow.isText (h : m.TextBelow p) {f : Path × String} (hf : f ∈ m.files)
    {c : Component} {cs : List Component} (hc : f.1.components = p.components ++ c :: cs) :
    c.IsText :=
  h f hf _ hc c List.mem_cons_self

theorem TextBelow.of_append (h : m.TextBelow p) {cs : List Component}
    (hq : q.components = p.components ++ cs) : m.TextBelow q := by
  intro f hf ds hds d hd
  exact h f hf (cs ++ ds) (by rw [hds, hq, List.append_assoc]) d (List.mem_append_right cs hd)

theorem TextBelow.of_startsWith (h : m.TextBelow p) (hq : q.startsWith p = true) :
    m.TextBelow q :=
  let ⟨_, hcs⟩ := List.isPrefixOf_iff_prefix.1 hq
  h.of_append hcs.symm

instance (m : Memory) : Decidable m.Apart :=
  inferInstanceAs (Decidable (∀ f ∈ m.files, ∀ g ∈ m.files, ¬ g.1.Below f.1))

instance (m : Memory) (p : Path) : Decidable (m.TextBelow p) :=
  inferInstanceAs (Decidable (∀ f ∈ m.files, f.1.TextBelow p))

instance (m : Memory) : Decidable m.Normal :=
  inferInstanceAs (Decidable (∀ f ∈ m.files, ∀ c ∈ f.1.components,
    c ≠ Component.current ∧ c ≠ Component.parent))

instance (m : Memory) (p : Path) : Decidable (m.IsFile p) :=
  inferInstanceAs (Decidable (∃ f ∈ m.files, f.1.components = p.components))

instance (m : Memory) (p : Path) : Decidable (m.IsDirectory p) :=
  inferInstanceAs (Decidable (∃ f ∈ m.files, f.1.Below p))

theorem file?_isSome_iff : (m.file? p).isSome = true ↔ m.IsFile p := by
  unfold file? IsFile
  rw [Option.isSome_map, List.find?_isSome]
  simp only [Path.same_iff]

theorem hasDirectory_iff : m.hasDirectory p = true ↔ m.IsDirectory p := by
  unfold hasDirectory IsDirectory
  rw [List.any_eq_true]
  refine exists_congr fun f => and_congr_right fun _ => ?_
  rw [Bool.and_eq_true, Path.startsWith_iff, Bool.not_eq_true', ← Bool.not_eq_true, Path.same_iff]
  constructor
  · rintro ⟨hne, he | h⟩
    · exact absurd he hne
    · exact h
  · intro h
    exact ⟨h.ne, Or.inr h⟩

theorem Apart.not_isDirectory (hm : m.Apart) (h : m.IsFile p) : ¬ m.IsDirectory p := by
  rintro ⟨g, hg, hbelow⟩
  obtain ⟨f, hf, hfp⟩ := h
  exact hm f hf g hg (hbelow.congr rfl hfp)

theorem hasEntry_iff : m.hasEntry p = true ↔ m.IsFile p ∨ m.IsDirectory p := by
  unfold hasEntry
  rw [Bool.or_eq_true, file?_isSome_iff, hasDirectory_iff]

theorem isDirectory_eq_true_iff : m.isDirectory p = .ok true ↔ m.IsDirectory p := by
  rw [← hasDirectory_iff]
  unfold isDirectory
  cases m.hasDirectory p with
  | true => simp
  | false => cases (m.file? p).isSome <;> simp

theorem isDirectory_of_isDirectory (h : m.IsDirectory p) : m.isDirectory p = .ok true := by
  unfold isDirectory
  rw [if_pos (hasDirectory_iff.2 h)]

theorem isDirectory_of_isFile (hm : m.Apart) (h : m.IsFile p) : m.isDirectory p = .ok false := by
  unfold isDirectory
  rw [if_neg (mt hasDirectory_iff.1 (hm.not_isDirectory h)), if_pos (file?_isSome_iff.2 h)]

theorem isDirectory_eq_false_iff : m.isDirectory p = .ok false ↔ m.IsFile p ∧ ¬ m.IsDirectory p := by
  rw [← hasDirectory_iff, ← file?_isSome_iff]
  unfold isDirectory
  cases m.hasDirectory p with
  | true => simp
  | false => cases (m.file? p).isSome <;> simp

theorem isDirectory_of_missing (h : m.hasEntry p = false) :
    m.isDirectory p = .error ⟨.isDirectory, p, .missing⟩ := by
  unfold hasEntry at h
  obtain ⟨hfile, hdir⟩ := Bool.or_eq_false_iff.1 h
  unfold isDirectory
  rw [hdir, hfile]
  rfl

theorem IsDirectory.congr (h : m.IsDirectory p) (hq : q.components = p.components) :
    m.IsDirectory q := by
  obtain ⟨f, hf, hbelow⟩ := h
  exact ⟨f, hf, hbelow.congr rfl hq⟩

theorem IsFile.congr (h : m.IsFile p) (hq : q.components = p.components) : m.IsFile q := by
  obtain ⟨f, hf, hfp⟩ := h
  exact ⟨f, hf, hfp.trans hq.symm⟩

theorem IsFile.isDirectory_of_below (h : m.IsFile p) (hq : p.Below q) : m.IsDirectory q := by
  obtain ⟨f, hf, hfp⟩ := h
  exact ⟨f, hf, hq.congr hfp rfl⟩

theorem isUnreadable_congr (h : p.components = q.components) :
    m.isUnreadable p = m.isUnreadable q := by
  unfold isUnreadable Path.same
  rw [h]

theorem file?_congr (hq : q.components = p.components) : m.file? q = m.file? p := by
  unfold file? Path.same
  rw [hq]

theorem read_eq_ok_iff {text : String} :
    m.read p = .ok text ↔ m.isUnreadable p = false ∧ m.file? p = some text := by
  unfold read
  cases m.isUnreadable p with
  | true => simp
  | false => cases m.file? p <;> simp

theorem read_of_components_eq {text : String} (hq : q.components = p.components)
    (h : m.read p = .ok text) : m.read q = .ok text := by
  rw [read_eq_ok_iff] at h ⊢
  rwa [isUnreadable_congr hq, file?_congr hq]

theorem le_foldl_length (files : List (Path × String)) (d : Nat) :
    d ≤ files.foldl (fun d f => max d f.1.components.length) d ∧
      ∀ f ∈ files,
        f.1.components.length ≤ files.foldl (fun d f => max d f.1.components.length) d := by
  induction files generalizing d with
  | nil => simp
  | cons g files ih =>
    obtain ⟨hd, hfiles⟩ := ih (max d g.1.components.length)
    refine ⟨Nat.le_trans (Nat.le_max_left _ _) hd, fun f hf => ?_⟩
    rcases List.mem_cons.1 hf with rfl | hf
    · exact Nat.le_trans (Nat.le_max_right _ _) hd
    · exact hfiles f hf

theorem length_le_depth {f : Path × String} (h : f ∈ m.files) :
    f.1.components.length ≤ m.depth :=
  Nat.le_succ_of_le ((le_foldl_length m.files 0).2 f h)

theorem encode_componentName (c : Component) :
    Text.Utf8.encode (componentName c) = c.shown.bytes := by
  cases c <;> rfl

theorem components_join_componentName {c : Component} {cs : List Component}
    (h : q.components = p.components ++ c :: cs) :
    (p.join (componentName c)).components = p.components ++ [c.shown] := by
  rw [encode_componentName]
  exact Path.components_join_shown h

theorem components_join_componentName_of_isText {c : Component} {cs : List Component}
    (h : q.components = p.components ++ c :: cs) (hc : c.IsText) :
    (p.join (componentName c)).components = p.components ++ [c] := by
  rw [components_join_componentName h, Component.isText_iff_shown.1 hc]

def childOf? (p : Path) (f : Path × String) : Option (String × Kind) :=
  match Path.stripBase? p f.1 with
  | some [c] => some (componentName c, .file)
  | some (c :: _) => some (componentName c, .directory)
  | _ => none

theorem childOf?_eq_some_iff {f : Path × String} {name : String} {kind : Kind} :
    childOf? p f = some (name, kind) ↔
      ∃ c cs, f.1.components = p.components ++ c :: cs ∧ name = componentName c ∧
        kind = if cs = [] then .file else .directory := by
  unfold childOf?
  constructor
  · intro h
    split at h
    · rename_i c hc
      cases h
      exact ⟨c, [], Path.stripBase?_eq_some_iff.1 hc, rfl, rfl⟩
    · rename_i c cs hcs hc
      cases h
      refine ⟨c, cs, Path.stripBase?_eq_some_iff.1 hc, rfl, ?_⟩
      rw [if_neg fun hnil => hcs (by rw [hnil])]
    · cases h
  · rintro ⟨c, cs, h, rfl, rfl⟩
    rw [Path.stripBase?_eq_some_iff.2 h]
    cases cs <;> rfl

theorem get?_foldl_addChild (l : List (String × Kind)) (d : Dict Kind) (name : String) :
    (l.foldl (fun acc e => addChild e.1 e.2 acc) d).get? name =
      (d.get? name).or (lookupEntry name l) := by
  induction l generalizing d with
  | nil => simp [lookupEntry]
  | cons e l ih =>
    obtain ⟨k, v⟩ := e
    rw [List.foldl_cons, ih]
    unfold addChild Dict.contains
    by_cases hk : k = name
    · subst hk
      cases h : d.get? k <;> simp [h, lookupEntry, Dict.get?_insert]
    · cases d.get? k <;> simp [hk, lookupEntry, Dict.get?_insert]

theorem children_eq_foldl : m.children p =
    (m.files.filterMap (childOf? p)).foldl (fun acc e => addChild e.1 e.2 acc) .empty := by
  unfold children
  rw [List.foldl_filterMap]
  congr 1
  funext acc f
  rcases hf : Path.stripBase? p f.1 with - | - | ⟨c, - | ⟨d, cs⟩⟩ <;> simp [childOf?, hf]

theorem get?_children (name : String) :
    (m.children p).get? name = lookupEntry name (m.files.filterMap (childOf? p)) := by
  rw [children_eq_foldl, get?_foldl_addChild, Dict.get?_empty, Option.none_or]

def Lists (m : Memory) (p : Path) (e : DirectoryEntry) : Prop :=
  ∃ f ∈ m.files, ∃ c cs, f.1.components = p.components ++ c :: cs ∧
    e = ⟨p.join (componentName c), componentName c, if cs = [] then .file else .directory⟩

theorem list_of_readable (h : m.IsDirectory p) (hr : m.isUnreadable p = false) :
    m.list p = .ok ((m.children p).entries.map fun e => ⟨p.join e.1, e.1, e.2⟩) := by
  unfold list
  rw [hr, hasDirectory_iff.2 h]
  rfl

theorem list_of_unreadable (h : m.isUnreadable p = true) :
    m.list p = .error ⟨.list, p, .forbidden⟩ := by
  unfold list
  rw [h]
  rfl

variable {entries : List DirectoryEntry} {e : DirectoryEntry}

theorem lists_of_mem_children {name : String} {kind : Kind}
    (h : (name, kind) ∈ (m.children p).entries) : m.Lists p ⟨p.join name, name, kind⟩ := by
  rw [Dict.mem_entries_iff, get?_children] at h
  obtain ⟨f, hf, hchild⟩ := List.mem_filterMap.1 (mem_of_lookupEntry h)
  obtain ⟨c, cs, hc, rfl, rfl⟩ := childOf?_eq_some_iff.1 hchild
  exact ⟨f, hf, c, cs, hc, rfl⟩

theorem mem_children_of_lists (hm : m.Apart) (htext : m.TextBelow p) (h : m.Lists p e) :
    (e.name, e.kind) ∈ (m.children p).entries ∧ e.path = p.join e.name := by
  obtain ⟨f, hf, c, cs, hc, rfl⟩ := h
  refine ⟨?_, rfl⟩
  have hmem : (componentName c, if cs = [] then Kind.file else .directory) ∈
      m.files.filterMap (childOf? p) :=
    List.mem_filterMap.2 ⟨f, hf, childOf?_eq_some_iff.2 ⟨c, cs, hc, rfl, rfl⟩⟩
  obtain ⟨kind, hkind⟩ := exists_lookupEntry_of_mem hmem
  obtain ⟨g, hg, hchild⟩ := List.mem_filterMap.1 (mem_of_lookupEntry hkind)
  obtain ⟨d, ds, hd, hname, rfl⟩ := childOf?_eq_some_iff.1 hchild
  -- The first file with this name has the same component, so neither can be above the other.
  have hcd : c = d := by
    have hjoin := components_join_componentName hc
    rw [hname, components_join_componentName hd, List.append_cancel_left_eq] at hjoin
    have hshown := (List.cons.inj hjoin).1.symm
    rwa [Component.isText_iff_shown.1 (htext.isText hf hc),
      Component.isText_iff_shown.1 (htext.isText hg hd)] at hshown
  subst hcd
  have hkinds : cs = [] ↔ ds = [] := by
    constructor
    · rintro rfl
      cases ds with
      | nil => rfl
      | cons d ds => exact absurd ⟨d, ds, by rw [hd, hc, List.append_assoc]; rfl⟩ (hm f hf g hg)
    · rintro rfl
      cases cs with
      | nil => rfl
      | cons d cs => exact absurd ⟨d, cs, by rw [hd, hc, List.append_assoc]; rfl⟩ (hm g hg f hf)
  rw [Dict.mem_entries_iff, get?_children, hkind]
  simp only [hkinds]

theorem eq_children_of_list (h : m.list p = .ok entries) :
    entries = (m.children p).entries.map fun e => ⟨p.join e.1, e.1, e.2⟩ := by
  unfold list at h
  split at h
  · cases h
  · split at h
    · cases h
      rfl
    · cases h

theorem lists_of_mem_list (h : m.list p = .ok entries) (he : e ∈ entries) : m.Lists p e := by
  rw [eq_children_of_list h, List.mem_map] at he
  obtain ⟨⟨name, kind⟩, hmem, rfl⟩ := he
  exact lists_of_mem_children hmem

theorem mem_list_iff (hm : m.Apart) (htext : m.TextBelow p) (h : m.list p = .ok entries) :
    e ∈ entries ↔ m.Lists p e := by
  refine ⟨lists_of_mem_list h, fun he => ?_⟩
  obtain ⟨hmem, hpath⟩ := mem_children_of_lists hm htext he
  rw [eq_children_of_list h, List.mem_map]
  refine ⟨(e.name, e.kind), hmem, ?_⟩
  rw [← hpath]

theorem componentName_shown (c : Component) : componentName c.shown = componentName c := by
  cases c with
  | normal n => exact Text.Utf8.decodeLossy_encode _
  | _ => rfl

theorem Lists.exists_component (h : m.Lists p e) :
    ∃ c : Component, c.IsText ∧ e.name = componentName c ∧
      e.path.components = p.components ++ [c] := by
  obtain ⟨f, -, c, cs, hc, rfl⟩ := h
  exact ⟨c.shown, c.isText_shown, (componentName_shown c).symm, components_join_componentName hc⟩

theorem nodup_list (h : m.list p = .ok entries) :
    (entries.map fun e => e.path.components).Nodup := by
  rw [eq_children_of_list h, List.map_map]
  refine List.pairwise_map.2 ((List.pairwise_map.1 (m.children p).keys_nodup).imp_of_mem ?_)
  intro e e' he he' hne heq
  obtain ⟨c, -, hname, hc⟩ := (lists_of_mem_children he).exists_component
  obtain ⟨c', -, hname', hc'⟩ := (lists_of_mem_children he').exists_component
  have hcc : c = c' := by simpa [hc, hc'] using heq
  exact hne (hname.trans (hcc ▸ hname'.symm))

end Files.Memory

end SourceDigest
