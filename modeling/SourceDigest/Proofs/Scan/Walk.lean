import Mathlib.Data.List.Nodup
import SourceDigest.Proofs.Files.Listing
import SourceDigest.Scan.Discover

namespace SourceDigest

namespace Scan

open Files (Memory DirectoryEntry System)
open Files.Memory (componentName)
open Text (lowerChars)

variable {m : Memory} {options : Options} {root dir d f : Path}

def Skipped (options : Options) (root d : Path) : Prop :=
  ∃ c, d.components.getLast? = some c ∧
    ((componentName c).toList.head? = some '.' ∨
      String.ofList (lowerChars (componentName c).toList) ∈ skippedDirectories ∨
      (d.components.dropLast = root.components ∧
        String.ofList (lowerChars (componentName c).toList) ∈ skippedAtRoot) ∨
      ∃ e ∈ options.extraSkipped, equalIgnoringCase e.toList (componentName c).toList = true)

theorem isSkippedDirectory_iff {extra : List String} {atRoot : Bool} {name : String} :
    isSkippedDirectory extra atRoot name = true ↔
      name.toList.head? = some '.' ∨
        String.ofList (lowerChars name.toList) ∈ skippedDirectories ∨
        (atRoot = true ∧ String.ofList (lowerChars name.toList) ∈ skippedAtRoot) ∨
        ∃ e ∈ extra, equalIgnoringCase e.toList name.toList = true := by
  unfold isSkippedDirectory startsWithDot
  simp only [Bool.or_eq_true, Bool.and_eq_true, beq_iff_eq, isOneOf_iff, List.any_eq_true, or_assoc]

theorem Skipped.congr {d' : Path} (h : Skipped options root d)
    (hd : d'.components = d.components) : Skipped options root d' := by
  unfold Skipped
  rwa [hd]

theorem skipped_iff_of_concat {ds : List Component} {c : Component}
    (h : d.components = ds ++ [c]) :
    Skipped options root d ↔
      isSkippedDirectory options.extraSkipped (decide (ds = root.components)) (componentName c)
        = true := by
  rw [isSkippedDirectory_iff, decide_eq_true_iff]
  unfold Skipped
  rw [h, List.getLast?_concat, List.dropLast_concat]
  constructor
  · rintro ⟨_, he, hname⟩
    cases he
    exact hname
  · intro hname
    exact ⟨c, rfl, hname⟩

structure Finds (m : Memory) (options : Options) (root dir f : Path) : Prop where
  file : m.IsFile f
  below : f.Below dir
  analyzable : isAnalyzable f = true
  passes : ∀ d : Path, d.Below dir → f.Below d →
    ¬ Skipped options root d ∧ m.isUnreadable d = false

theorem isAnalyzable_congr {f' : Path} (h : f'.components = f.components) :
    isAnalyzable f' = isAnalyzable f := by
  unfold isAnalyzable Path.fileName?
  rw [h]

theorem Finds.congr {f' dir' : Path} (h : Finds m options root dir f)
    (hf : f'.components = f.components) (hdir : dir'.components = dir.components) :
    Finds m options root dir' f' where
  file := h.file.congr hf
  below := h.below.congr hf hdir
  analyzable := (isAnalyzable_congr hf).trans h.analyzable
  passes d hd hfd := h.passes d (hd.congr rfl hdir.symm) (hfd.congr hf.symm rfl)

theorem finds_child_iff {c : Component} (hf : f.components = dir.components ++ [c]) :
    Finds m options root dir f ↔ m.IsFile f ∧ isAnalyzable f = true := by
  constructor
  · intro h
    exact ⟨h.file, h.analyzable⟩
  · rintro ⟨hfile, hanalyzable⟩
    exact ⟨hfile, ⟨c, [], hf⟩, hanalyzable,
      fun d hd hfd => absurd ((Path.below_concat_iff hf).1 hfd) hd.not_startsWith⟩

theorem components_eq_or_below {c : Component} {s : Path}
    (hs : s.components = dir.components ++ [c]) (hfs : f.Below s) (hd : d.Below dir)
    (hfd : f.Below d) : d.components = s.components ∨ d.Below s := by
  rcases Path.startsWith_or_below hfs hfd with hsd | hds
  · rcases Path.startsWith_iff.1 hsd with he | hbelow
    · exact Or.inl he.symm
    · exact absurd ((Path.below_concat_iff hs).1 hbelow) hd.not_startsWith
  · exact Or.inr hds

theorem components_eq_of_below {c c' : Component} {s s' : Path}
    (hs : s.components = dir.components ++ [c]) (hs' : s'.components = dir.components ++ [c'])
    (h : f.Below s) (h' : f.Below s') : s'.components = s.components := by
  have hsdir : s.Below dir := ⟨c, [], hs⟩
  rcases components_eq_or_below hs h ⟨c', [], hs'⟩ h' with he | hbelow
  · exact he
  · exact absurd ((Path.below_concat_iff hs').1 hbelow) hsdir.not_startsWith

theorem finds_below_iff {c : Component} {s : Path} (hs : s.components = dir.components ++ [c])
    (hfs : f.Below s) :
    Finds m options root dir f ↔
      ¬ Skipped options root s ∧ m.isUnreadable s = false ∧ Finds m options root s f := by
  have hsdir : s.Below dir := ⟨c, [], hs⟩
  constructor
  · intro h
    obtain ⟨hskip, hread⟩ := h.passes s hsdir hfs
    exact ⟨hskip, hread, h.file, hfs, h.analyzable, fun d hd => h.passes d (hd.trans hsdir)⟩
  · rintro ⟨hskip, hread, h⟩
    refine ⟨h.file, hfs.trans hsdir, h.analyzable, fun d hd hfd => ?_⟩
    rcases components_eq_or_below hs hfs hd hfd with he | hds
    · exact ⟨fun hd => hskip (hd.congr he.symm), (Memory.isUnreadable_congr he).trans hread⟩
    · exact h.passes d hds hfd

theorem value_concatLogged (ls : List (Logged (List Path))) :
    (concatLogged ls).value = ls.flatMap (·.value) := by
  induction ls with
  | nil => rfl
  | cons l ls ih => rw [concatLogged, ih, List.flatMap_cons]

theorem value_walk_of_error {system : System} {failure : Files.Failure} (depth : Nat)
    (h : system.list dir = .error failure) : (walk system options root depth dir).value = [] := by
  cases depth with
  | zero => rfl
  | succ depth => rw [walk, h]

theorem value_walk_of_list {system : System} {entries : List DirectoryEntry} (depth : Nat)
    (h : system.list dir = .ok entries) :
    (walk system options root (depth + 1) dir).value = filesOf entries ++
      (directoriesOf options (dir.same root) entries).flatMap fun d =>
        (walk system options root depth d).value := by
  rw [walk, h]
  simp only [value_concatLogged, List.flatMap_map]

variable {entries : List DirectoryEntry}

theorem mem_filesOf {p : Path} :
    p ∈ filesOf entries ↔ ∃ e ∈ entries, e.kind = .file ∧ isAnalyzable p = true ∧ e.path = p := by
  unfold filesOf
  simp only [List.mem_map, List.mem_filter, Bool.and_eq_true, beq_iff_eq]
  constructor
  · rintro ⟨e, ⟨he, hkind, hpath⟩, rfl⟩
    exact ⟨e, he, hkind, hpath, rfl⟩
  · rintro ⟨e, he, hkind, hpath, rfl⟩
    exact ⟨e, ⟨he, hkind, hpath⟩, rfl⟩

theorem mem_directoriesOf {atRoot : Bool} {p : Path} :
    p ∈ directoriesOf options atRoot entries ↔ ∃ e ∈ entries, e.kind = .directory ∧
      isSkippedDirectory options.extraSkipped atRoot e.name = false ∧ e.path = p := by
  unfold directoriesOf
  simp only [List.mem_reverse, List.mem_map, List.mem_filter, Bool.and_eq_true, beq_iff_eq,
    Bool.not_eq_true']
  constructor
  · rintro ⟨e, ⟨he, hkind, hname⟩, rfl⟩
    exact ⟨e, he, hkind, hname, rfl⟩
  · rintro ⟨e, he, hkind, hname, rfl⟩
    exact ⟨e, ⟨he, hkind, hname⟩, rfl⟩

theorem components_of_mem_filesOf (h : m.list dir = .ok entries) (hf : f ∈ filesOf entries) :
    ∃ c, f.components = dir.components ++ [c] := by
  obtain ⟨e, he, -, -, rfl⟩ := mem_filesOf.1 hf
  obtain ⟨c, -, -, hpath⟩ := (Memory.lists_of_mem_list h he).exists_component
  exact ⟨c, hpath⟩

theorem components_mem_filesOf_iff (hm : m.Apart) (htext : m.TextBelow dir)
    (h : m.list dir = .ok entries) :
    f.components ∈ (filesOf entries).map Path.components ↔
      (∃ c, f.components = dir.components ++ [c]) ∧ m.IsFile f ∧ isAnalyzable f = true := by
  constructor
  · intro hmem
    obtain ⟨p, hp, hpf⟩ := List.mem_map.1 hmem
    obtain ⟨e, he, hkind, hanalyzable, rfl⟩ := mem_filesOf.1 hp
    obtain ⟨g, hg, c, cs, hc, rfl⟩ := (Memory.mem_list_iff hm htext h).1 he
    have hcs : cs = [] := by
      by_contra hne
      simp [hne] at hkind
    have hpath := Memory.components_join_componentName_of_isText hc (htext.isText hg hc)
    subst hcs
    refine ⟨⟨c, hpf.symm.trans hpath⟩, ⟨g, hg, ?_⟩, (isAnalyzable_congr hpf.symm).trans hanalyzable⟩
    rw [hc, ← hpf, hpath]
  · rintro ⟨⟨c, hc⟩, ⟨g, hg, hgf⟩, hanalyzable⟩
    have hg' := hgf.trans hc
    have hpath := (Memory.components_join_componentName_of_isText hg' (htext.isText hg hg')).trans
      hc.symm
    have he := (Memory.mem_list_iff hm htext h).2 ⟨g, hg, c, [], hg', rfl⟩
    exact List.mem_map.2 ⟨dir.join (componentName c), mem_filesOf.2
      ⟨_, he, rfl, (isAnalyzable_congr hpath).trans hanalyzable, rfl⟩, hpath⟩

theorem not_skipped_of_mem_directoriesOf (h : m.list dir = .ok entries)
    (hd : d ∈ directoriesOf options (dir.same root) entries) :
    ¬ Skipped options root d ∧ ∃ c, d.components = dir.components ++ [c] := by
  obtain ⟨e, he, -, hname, rfl⟩ := mem_directoriesOf.1 hd
  obtain ⟨c, -, hc, hpath⟩ := (Memory.lists_of_mem_list h he).exists_component
  rw [hc] at hname
  exact ⟨fun hskip => Bool.false_ne_true
    (hname.symm.trans ((skipped_iff_of_concat hpath).1 hskip)), c, hpath⟩

theorem exists_mem_directoriesOf (hm : m.Apart) (htext : m.TextBelow dir)
    (h : m.list dir = .ok entries) {c c' : Component} {cs : List Component} (hfile : m.IsFile f)
    (hf : f.components = dir.components ++ c :: c' :: cs) :
    ∃ s : Path, s.components = dir.components ++ [c] ∧ f.Below s ∧
      (¬ Skipped options root s → s ∈ directoriesOf options (dir.same root) entries) := by
  obtain ⟨g, hg, hgf⟩ := hfile
  have hpath := Memory.components_join_componentName_of_isText hf (htext.isText hg (hgf.trans hf))
  have he := (Memory.mem_list_iff hm htext h).2 ⟨g, hg, c, c' :: cs, hgf.trans hf, rfl⟩
  refine ⟨_, hpath, ⟨c', cs, by rw [hf, hpath, List.append_assoc]; rfl⟩, fun hskip => ?_⟩
  rw [skipped_iff_of_concat hpath, Bool.not_eq_true] at hskip
  exact mem_directoriesOf.2 ⟨_, he, rfl, hskip, rfl⟩

theorem components_mem_walk_iff (hm : m.Apart) (htext : m.TextBelow dir) (depth : Nat)
    (hdepth : ∀ g ∈ m.files, g.1.components.length ≤ dir.components.length + depth) :
    f.components ∈ (walk m.system options root depth dir).value.map Path.components ↔
      m.isUnreadable dir = false ∧ Finds m options root dir f := by
  induction depth generalizing dir with
  | zero =>
    refine iff_of_false (by simp [walk]) ?_
    rintro ⟨-, ⟨g, hg, hgf⟩, hbelow, -, -⟩
    have := hdepth g hg
    have := hbelow.length_lt
    rw [← hgf] at this
    omega
  | succ depth ih =>
    cases hlist : m.list dir with
    | error failure =>
      rw [value_walk_of_error (depth + 1) hlist]
      refine iff_of_false (by simp) ?_
      rintro ⟨hread, hfinds⟩
      rw [Memory.list_of_readable (hfinds.file.isDirectory_of_below hfinds.below) hread] at hlist
      cases hlist
    | ok entries =>
      have hread : m.isUnreadable dir = false := by
        rw [← Bool.not_eq_true]
        intro hunreadable
        rw [Memory.list_of_unreadable hunreadable] at hlist
        cases hlist
      have hsub {s : Path} {c : Component} (hs : s.components = dir.components ++ [c]) :
          ∀ g ∈ m.files, g.1.components.length ≤ s.components.length + depth := by
        intro g hg
        have := hdepth g hg
        rw [hs, List.length_append, List.length_singleton]
        omega
      rw [value_walk_of_list depth hlist, List.map_append, List.mem_append,
        components_mem_filesOf_iff hm htext hlist, List.map_flatMap, List.mem_flatMap]
      constructor
      · rintro (⟨⟨c, hc⟩, hfile⟩ | ⟨s, hs, hfs⟩)
        · exact ⟨hread, (finds_child_iff hc).2 hfile⟩
        · obtain ⟨hskip, c, hc⟩ := not_skipped_of_mem_directoriesOf hlist hs
          obtain ⟨hreads, hfinds⟩ := (ih (htext.of_append hc) (hsub hc)).1 hfs
          exact ⟨hread, (finds_below_iff hc hfinds.below).2 ⟨hskip, hreads, hfinds⟩⟩
      · rintro ⟨-, hfinds⟩
        obtain ⟨c, cs, hc⟩ := hfinds.below
        cases cs with
        | nil => exact Or.inl ⟨⟨c, hc⟩, (finds_child_iff hc).1 hfinds⟩
        | cons c' cs =>
          obtain ⟨s, hs, hfs, hmem⟩ := exists_mem_directoriesOf hm htext hlist hfinds.file hc
          obtain ⟨hskip, hfinds'⟩ := (finds_below_iff hs hfs).1 hfinds
          exact Or.inr ⟨s, hmem hskip, (ih (htext.of_append hs) (hsub hs)).2 hfinds'⟩

theorem components_mem_walk_depth_iff (hm : m.Apart) (htext : m.TextBelow dir) :
    f.components ∈ (walk m.system options root m.depth dir).value.map Path.components ↔
      m.isUnreadable dir = false ∧ Finds m options root dir f :=
  components_mem_walk_iff hm htext m.depth fun _ hg =>
    Nat.le_add_left_of_le (Memory.length_le_depth hg)

theorem below_of_mem_walk (depth : Nat) {p : Path}
    (h : p ∈ (walk m.system options root depth dir).value) : p.Below dir := by
  induction depth generalizing dir with
  | zero => cases h
  | succ depth ih =>
    cases hlist : m.list dir with
    | error failure =>
      rw [value_walk_of_error (depth + 1) hlist] at h
      cases h
    | ok entries =>
      rw [value_walk_of_list depth hlist] at h
      rcases List.mem_append.1 h with h | h
      · obtain ⟨c, hc⟩ := components_of_mem_filesOf hlist h
        exact ⟨c, [], hc⟩
      · obtain ⟨s, hs, hp⟩ := List.mem_flatMap.1 h
        obtain ⟨-, c, hc⟩ := not_skipped_of_mem_directoriesOf hlist hs
        exact (ih hp).trans ⟨c, [], hc⟩

theorem nodup_filesOf (h : m.list dir = .ok entries) :
    ((filesOf entries).map Path.components).Nodup := by
  unfold filesOf
  rw [List.map_map]
  exact (List.filter_sublist.map _).nodup (Memory.nodup_list h)

theorem nodup_directoriesOf {atRoot : Bool} (h : m.list dir = .ok entries) :
    ((directoriesOf options atRoot entries).map Path.components).Nodup := by
  unfold directoriesOf
  rw [List.map_reverse, List.nodup_reverse, List.map_map]
  exact (List.filter_sublist.map _).nodup (Memory.nodup_list h)

theorem nodup_walk (depth : Nat) :
    ((walk m.system options root depth dir).value.map Path.components).Nodup := by
  induction depth generalizing dir with
  | zero => exact List.nodup_nil
  | succ depth ih =>
    cases hlist : m.list dir with
    | error failure =>
      rw [value_walk_of_error (depth + 1) hlist]
      exact List.nodup_nil
    | ok entries =>
      rw [value_walk_of_list depth hlist, List.map_append, List.map_flatMap, List.nodup_append]
      refine ⟨nodup_filesOf hlist, List.nodup_flatMap.2 ⟨fun s _ => ih, ?_⟩, ?_⟩
      · have hdirs : ((directoriesOf options (dir.same root) entries).map Path.components).Nodup :=
          nodup_directoriesOf hlist
        refine (List.pairwise_map.1 hdirs).imp_of_mem fun {s s'} hs hs' hne cs hcs hcs' => ?_
        obtain ⟨-, c, hc⟩ := not_skipped_of_mem_directoriesOf hlist hs
        obtain ⟨-, c', hc'⟩ := not_skipped_of_mem_directoriesOf hlist hs'
        obtain ⟨p, hp, rfl⟩ := List.mem_map.1 hcs
        obtain ⟨p', hp', hpp'⟩ := List.mem_map.1 hcs'
        have hbelow : p.Below s' := (below_of_mem_walk depth hp').congr hpp'.symm rfl
        exact hne (components_eq_of_below hc hc' (below_of_mem_walk depth hp) hbelow).symm
      · rintro cs hcs ds hds rfl
        obtain ⟨p, hp, rfl⟩ := List.mem_map.1 hcs
        obtain ⟨s, hs, hmem⟩ := List.mem_flatMap.1 hds
        obtain ⟨q, hq, hqp⟩ := List.mem_map.1 hmem
        obtain ⟨c, hc⟩ := components_of_mem_filesOf hlist hp
        obtain ⟨-, c', hc'⟩ := not_skipped_of_mem_directoriesOf hlist hs
        have hsdir : s.Below dir := ⟨c', [], hc'⟩
        exact absurd ((Path.below_concat_iff (hqp.trans hc)).1 (below_of_mem_walk depth hq))
          hsdir.not_startsWith

end Scan

end SourceDigest
