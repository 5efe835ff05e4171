import SourceDigest.Path

namespace SourceDigest

open Text (splitOn joinWith)

namespace Component

theorem ofPart?_eq_none_iff {part : List UInt8} : ofPart? part = none ↔ Path.isIdle part = true := by
  unfold ofPart? Path.isIdle
  split
  · simpa using ‹_›
  · rename_i h
    simp only [not_or] at h
    split <;> simp [h]

theorem ofPart?_ne_root (part : List UInt8) : ofPart? part ≠ some .root := by
  unfold ofPart?
  repeat' split
  all_goals simp

theorem eq_parent_or_normal_of_ofPart? {part : List UInt8} {c : Component}
    (h : ofPart? part = some c) :
    c = .parent ∧ part = [dot, dot] ∨ c = .normal part := by
  unfold ofPart? at h
  split at h
  · cases h
  · split at h
    · exact Or.inl ⟨(Option.some.inj h).symm, ‹_›⟩
    · exact Or.inr (Option.some.inj h).symm

structure IsPart (c : Component) (s : List UInt8) : Prop where
  sep : slash ∉ s
  part : ofPart? s = some c

theorem IsPart.not_idle {c : Component} {s : List UInt8} (h : c.IsPart s) :
    Path.isIdle s = false := by
  rw [← Bool.not_eq_true, ← ofPart?_eq_none_iff, h.part]
  simp

end Component

namespace Path

variable {p q : Path} {first : List UInt8} {rest : List (List UInt8)}

theorem parts_eq_cons (p : Path) : ∃ first rest, p.parts = first :: rest :=
  List.exists_cons_of_ne_nil (Text.splitOn_ne_nil slash p.bytes)

theorem bytes_of_parts (p : Path) : p.bytes = joinWith [slash] p.parts :=
  (Text.joinWith_splitOn slash p.bytes).symm

theorem sep_of_mem_parts {part : List UInt8} (h : part ∈ p.parts) : slash ∉ part :=
  Text.not_mem_of_mem_splitOn h

theorem parts_ofList_joinWith {l : List (List UInt8)} (hne : l ≠ []) (h : ∀ w ∈ l, slash ∉ w) :
    (Path.mk (joinWith [slash] l)).parts = l := by
  unfold parts
  exact Text.splitOn_joinWith hne h

theorem isAbsolute_iff (h : p.parts = first :: rest) :
    p.isAbsolute = true ↔ first = [] ∧ rest ≠ [] := by
  have hfirst : slash ∉ first := sep_of_mem_parts (h ▸ List.mem_cons_self)
  unfold isAbsolute
  rw [bytes_of_parts, h]
  cases rest with
  | nil =>
    cases first with
    | nil => simp [joinWith]
    | cons c first =>
      simp only [List.mem_cons, not_or] at hfirst
      simp [joinWith, Ne.symm hfirst.1]
  | cons r rest =>
    rw [Text.joinWith_cons_cons _ _ (List.cons_ne_nil r rest)]
    cases first with
    | nil => simp
    | cons c first =>
      simp only [List.mem_cons, not_or] at hfirst
      simp [Ne.symm hfirst.1]

theorem isAbsolute_congr {rest' : List (List UInt8)} (hp : p.parts = first :: rest)
    (hq : q.parts = first :: rest') (h : first = [] → (rest = [] ↔ rest' = [])) :
    p.isAbsolute = q.isAbsolute := by
  rw [Bool.eq_iff_iff, isAbsolute_iff hp, isAbsolute_iff hq]
  exact and_congr_right fun hfirst => not_congr (h hfirst)

theorem bytes_eq_nil_of_parts (h : p.parts = [[]]) : p.bytes = [] := by
  have hb := bytes_of_parts p
  rw [h] at hb
  exact hb

def start (absolute : Bool) (first : List UInt8) : List Component :=
  if absolute then [.root]
  else if first = [dot] then [.current]
  else (Component.ofPart? first).toList

theorem components_eq (h : p.parts = first :: rest) :
    p.components = start p.isAbsolute first ++ rest.filterMap Component.ofPart? := by
  unfold components
  rw [h]
  rfl

theorem filterMap_ofPart?_of_idle {l : List (List UInt8)} (h : ∀ part ∈ l, isIdle part = true) :
    l.filterMap Component.ofPart? = [] :=
  List.filterMap_eq_nil_iff.2 fun part hpart => Component.ofPart?_eq_none_iff.2 (h part hpart)

theorem components_extend {front back more : List (List UInt8)} (hp : p.parts = front ++ back)
    (hback : ∀ part ∈ back, isIdle part = true) (hne : p.bytes ≠ []) (hfront : front ≠ [])
    (hq : q.parts = front ++ more) (hmore : more ≠ []) :
    q.components = p.components ++ more.filterMap Component.ofPart? := by
  obtain ⟨first, rest, rfl⟩ := List.exists_cons_of_ne_nil hfront
  have habs : p.isAbsolute = q.isAbsolute := by
    refine isAbsolute_congr hp hq fun hfirst => iff_of_false (fun hnil => hne ?_) (by simp [hmore])
    refine bytes_eq_nil_of_parts (hp.trans ?_)
    rw [hfirst]
    exact congrArg (List.cons []) hnil
  rw [components_eq hp, components_eq hq, habs]
  simp [List.filterMap_append, filterMap_ofPart?_of_idle hback]

theorem components_of_isPart {c : Component} {s : List UInt8} (h : c.IsPart s) :
    (Path.mk s).components = [c] := by
  have hparts : (Path.mk s).parts = [s] := Text.splitOn_eq_singleton h.sep
  have hidle := h.not_idle
  have habs : (Path.mk s).isAbsolute = false := by
    rw [← Bool.not_eq_true, isAbsolute_iff hparts]
    simp
  simp only [isIdle, Bool.or_eq_false_iff, beq_eq_false_iff_ne] at hidle
  rw [components_eq hparts, habs]
  simp [start, hidle.2, h.part]

theorem components_join_parts {s : List UInt8} (hslash : s.head? ≠ some slash) (hne : p.bytes ≠ []) :
    (p.join s).components = p.components ++ (Path.mk s).parts.filterMap Component.ofPart? := by
  have hmore : (Path.mk s).parts ≠ [] := Text.splitOn_ne_nil slash s
  unfold join
  rw [if_neg hslash]
  by_cases hend : p.bytes.getLast? = some slash
  · obtain ⟨t, ht⟩ := List.getLast?_eq_some_iff.1 hend
    have hp : p.parts = splitOn slash t ++ [[]] := by
      unfold parts
      rw [ht, Text.splitOn_append_sep]
      rfl
    have hq : (Path.mk (p.bytes ++ s)).parts = splitOn slash t ++ (Path.mk s).parts := by
      unfold parts
      rw [ht, List.append_assoc, ← Text.splitOn_append_sep]
      rfl
    rw [if_pos (Or.inr hend)]
    exact components_extend hp (by simp [isIdle]) hne (Text.splitOn_ne_nil slash t) hq hmore
  · have hq : (Path.mk (p.bytes ++ slash :: s)).parts = p.parts ++ (Path.mk s).parts := by
      unfold parts
      rw [Text.splitOn_append_sep]
    rw [if_neg (by simp [hne, hend])]
    exact components_extend (List.append_nil p.parts).symm (by simp) hne
      (Text.splitOn_ne_nil slash p.bytes) hq hmore

theorem isAbsolute_eq_false_iff : p.isAbsolute = false ↔ p.bytes.head? ≠ some slash :=
  beq_eq_false_iff_ne

theorem filterMap_parts (h : p.isAbsolute = false) :
    p.parts.filterMap Component.ofPart? = p.components.filter (· != .current) := by
  obtain ⟨first, rest, hp⟩ := p.parts_eq_cons
  have hself : ∀ l : List (List UInt8), (l.filterMap Component.ofPart?).filter (· != .current)
      = l.filterMap Component.ofPart? := by
    intro l
    rw [List.filter_eq_self]
    intro c hc
    obtain ⟨part, -, hpart⟩ := List.mem_filterMap.1 hc
    rcases Component.eq_parent_or_normal_of_ofPart? hpart with ⟨rfl, -⟩ | rfl <;> rfl
  have hstart : (start false first).filter (· != .current)
      = [first].filterMap Component.ofPart? := by
    by_cases hdot : first = [dot]
    · subst hdot
      rfl
    · have hsingle : start false first = [first].filterMap Component.ofPart? := by
        rw [start, if_neg Bool.false_ne_true, if_neg hdot]
        cases hfirst : Component.ofPart? first <;> simp [hfirst]
      rw [hsingle, hself]
  rw [components_eq hp, h, List.filter_append, hstart, hself, hp, ← List.filterMap_append]
  rfl

theorem components_join_relative (hq : q.isAbsolute = false) (hne : p.bytes ≠ []) :
    (p.join q.bytes).components = p.components ++ q.components.filter (· != .current) := by
  rw [components_join_parts (isAbsolute_eq_false_iff.1 hq) hne, ← filterMap_parts hq]

theorem components_join {c : Component} {s : List UInt8} (h : c.IsPart s) :
    (p.join s).components = p.components ++ [c] := by
  have hslash : s.head? ≠ some slash := fun he => h.sep (List.mem_of_mem_head? he)
  by_cases hempty : p.bytes = []
  · have hnil : p.components = [] := by
      obtain ⟨bytes⟩ := p
      cases hempty
      rfl
    rw [join, if_neg hslash, if_pos (Or.inl hempty), hempty, List.nil_append,
      components_of_isPart h, hnil]
    rfl
  · have hparts : (Path.mk s).parts = [s] := Text.splitOn_eq_singleton h.sep
    rw [components_join_parts hslash hempty, hparts]
    simp [h.part]

theorem components_eq_nil_iff : p.components = [] ↔ p.bytes = [] := by
  constructor
  · intro h
    obtain ⟨first, rest, hp⟩ := p.parts_eq_cons
    rw [components_eq hp, List.append_eq_nil_iff] at h
    obtain ⟨hstart, -⟩ := h
    have habs := isAbsolute_iff hp
    unfold start at hstart
    split at hstart
    · cases hstart
    · split at hstart
      · cases hstart
      · rename_i hnot hdot
        have hidle : isIdle first = true :=
          Component.ofPart?_eq_none_iff.1 (Option.toList_eq_nil_iff.1 hstart)
        have hfirst : first = [] := by simpa [isIdle, hdot] using hidle
        cases rest with
        | nil => exact bytes_eq_nil_of_parts (by rw [hp, hfirst])
        | cons part rest => exact absurd (habs.2 ⟨hfirst, List.cons_ne_nil part rest⟩) hnot
  · intro h
    obtain ⟨bytes⟩ := p
    cases h
    rfl

theorem components_root : (Path.mk [slash]).components = [.root] := rfl

theorem length_start_le (absolute : Bool) (first : List UInt8) :
    (start absolute first).length ≤ 1 := by
  unfold start
  repeat' split
  · simp
  · simp
  · exact Option.length_toList_le

theorem isPart_of_mem_parts {c : Component} {part : List UInt8} (h : part ∈ p.parts)
    (hc : Component.ofPart? part = some c) : c.IsPart part :=
  ⟨sep_of_mem_parts h, hc⟩

theorem exists_isPart_of_mem_tail {c d : Component} {ds : List Component}
    (h : p.components = d :: ds) (hc : c ∈ ds) : ∃ s, c.IsPart s := by
  obtain ⟨first, rest, hp⟩ := p.parts_eq_cons
  have hrest : c ∈ rest.filterMap Component.ofPart? := by
    rw [components_eq hp] at h
    match hs : start p.isAbsolute first, length_start_le p.isAbsolute first with
    | [], _ =>
      rw [hs, List.nil_append] at h
      rw [h]
      exact List.mem_cons_of_mem _ hc
    | [_], _ =>
      rw [hs] at h
      cases h
      exact hc
  obtain ⟨part, hmem, hpart⟩ := List.mem_filterMap.1 hrest
  exact ⟨_, isPart_of_mem_parts (hp ▸ List.mem_cons_of_mem first hmem) hpart⟩

theorem exists_isPart_of_normal {n : List UInt8} (h : .normal n ∈ p.components) :
    ∃ s, (Component.normal n).IsPart s := by
  obtain ⟨first, rest, hp⟩ := p.parts_eq_cons
  rw [components_eq hp] at h
  rcases List.mem_append.1 h with h | h
  · unfold start at h
    split at h
    · simp at h
    · split at h
      · simp at h
      · exact ⟨_, isPart_of_mem_parts (hp ▸ List.mem_cons_self) (Option.mem_toList.1 h)⟩
  · obtain ⟨part, hmem, hpart⟩ := List.mem_filterMap.1 h
    exact ⟨_, isPart_of_mem_parts (hp ▸ List.mem_cons_of_mem first hmem) hpart⟩

theorem isAbsolute_of_root_mem (h : .root ∈ p.components) : p.isAbsolute = true := by
  obtain ⟨first, rest, hp⟩ := p.parts_eq_cons
  rw [components_eq hp] at h
  rcases List.mem_append.1 h with h | h
  · unfold start at h
    split at h
    · assumption
    · split at h
      · simp at h
      · exact absurd (Option.mem_toList.1 h) (Component.ofPart?_ne_root first)
  · obtain ⟨part, -, hpart⟩ := List.mem_filterMap.1 h
    exact absurd hpart (Component.ofPart?_ne_root part)

theorem eq_nil_of_root_mem {base cs : List Component} (h : p.components = base ++ cs)
    (hroot : .root ∈ cs) : base = [] := by
  cases base with
  | nil => rfl
  | cons b base =>
    obtain ⟨s, hs⟩ := exists_isPart_of_mem_tail h (List.mem_append_right base hroot)
    exact absurd hs.part (Component.ofPart?_ne_root s)

def stripIdle (l : List (List UInt8)) : List (List UInt8) := (l.reverse.dropWhile isIdle).reverse

theorem exists_stripIdle_append (l : List (List UInt8)) :
    ∃ back, l = stripIdle l ++ back ∧ ∀ part ∈ back, isIdle part = true := by
  refine ⟨(l.reverse.takeWhile isIdle).reverse, ?_, ?_⟩
  · rw [stripIdle, ← List.reverse_append, List.takeWhile_append_dropWhile, List.reverse_reverse]
  · intro part hpart
    exact List.all_eq_true.1 List.all_takeWhile part (List.mem_reverse.1 hpart)

theorem filterMap_stripIdle (l : List (List UInt8)) :
    (stripIdle l).filterMap Component.ofPart? = l.filterMap Component.ofPart? := by
  obtain ⟨back, hl, hback⟩ := exists_stripIdle_append l
  have h := congrArg (List.filterMap Component.ofPart?) hl
  rw [List.filterMap_append, filterMap_ofPart?_of_idle hback, List.append_nil] at h
  exact h.symm

theorem stripIdle_subset (l : List (List UInt8)) : stripIdle l ⊆ l := by
  obtain ⟨back, hl, -⟩ := exists_stripIdle_append l
  intro part hpart
  rw [hl]
  exact List.mem_append_left back hpart

theorem exists_concat_of_stripIdle {l : List (List UInt8)} (h : stripIdle l ≠ []) :
    ∃ init part c, stripIdle l = init ++ [part] ∧ Component.ofPart? part = some c := by
  have hne : l.reverse.dropWhile isIdle ≠ [] := fun hnil => h (by rw [stripIdle, hnil]; rfl)
  obtain ⟨part, init, hcons⟩ := List.exists_cons_of_ne_nil hne
  have hpart : isIdle part = false := by
    have hhead := List.head_dropWhile_not isIdle hne
    simpa only [hcons, List.head_cons] using hhead
  obtain ⟨c, hc⟩ := Option.ne_none_iff_exists'.1
    (mt Component.ofPart?_eq_none_iff.1 (by simp [hpart]) : Component.ofPart? part ≠ none)
  exact ⟨init.reverse, part, c, by rw [stripIdle, hcons, List.reverse_cons], hc⟩

theorem parent?_of_idle (h : p.parts = first :: rest) (hrest : stripIdle rest = []) :
    p.parent? = if p.isAbsolute || first == [] then none else some ⟨[]⟩ := by
  unfold stripIdle at hrest
  simp only [parent?, h, hrest]

theorem parent?_of_kept {init : List (List UInt8)} {part : List UInt8}
    (h : p.parts = first :: rest) (hrest : stripIdle rest = init ++ [part]) :
    p.parent? = some (
      if stripIdle init = [] then if p.isAbsolute then ⟨[slash]⟩ else ⟨first⟩
      else ⟨joinWith [slash] (first :: stripIdle init)⟩) := by
  have hlast : (init ++ [part]).dropLast = init := List.dropLast_concat
  unfold stripIdle at hrest
  simp only [parent?, h, hrest]
  split
  · simp_all
  · rw [hlast]
    by_cases hinit : stripIdle init = []
    · rw [if_pos hinit]
      unfold stripIdle at hinit
      rw [hinit]
      exact (apply_ite some _ _ _).symm
    · rw [if_neg hinit]
      unfold stripIdle at hinit ⊢
      split
      · exact absurd ‹_› hinit
      · rfl

theorem parent?_of_start {cs : List Component} {last : Component} (hp : p.parts = first :: rest)
    (hrest : stripIdle rest = []) (hlast : last ≠ .root)
    (h : start p.isAbsolute first = cs ++ [last]) : p.parent? = some ⟨[]⟩ ∧ cs = [] := by
  have hnot : (p.isAbsolute || first == []) = false := by
    cases habs : p.isAbsolute with
    | true =>
      have hroot : [] ++ [Component.root] = cs ++ [last] := by rwa [habs] at h
      exact absurd (List.singleton_inj.1 (List.append_inj' hroot rfl).2).symm hlast
    | false =>
      simp only [Bool.false_or, beq_eq_false_iff_ne]
      rintro rfl
      simp [start, habs, Component.ofPart?] at h
  refine ⟨by rw [parent?_of_idle hp hrest, hnot]; rfl, ?_⟩
  have hlen := length_start_le p.isAbsolute first
  rw [h, List.length_append] at hlen
  exact List.eq_nil_of_length_eq_zero (by simpa using hlen)

theorem components_start (absolute : Bool) (hfirst : slash ∉ first) :
    (if absolute then Path.mk [slash] else ⟨first⟩).components = start absolute first := by
  cases absolute with
  | true => exact components_root
  | false =>
    have hparts : (Path.mk first).parts = [first] := by
      unfold parts
      rw [Text.splitOn_eq_singleton hfirst]
    have habs : (Path.mk first).isAbsolute = false := by
      rw [← Bool.not_eq_true, isAbsolute_iff hparts]
      simp
    exact (components_eq hparts).trans (by rw [habs, List.filterMap_nil, List.append_nil])

theorem exists_parent?_of_ne_root {cs : List Component} {last : Component} (hlast : last ≠ .root)
    (h : p.components = cs ++ [last]) : ∃ dir, p.parent? = some dir ∧ dir.components = cs := by
  obtain ⟨first, rest, hp⟩ := p.parts_eq_cons
  have hsep : ∀ part ∈ first :: rest, slash ∉ part :=
    fun part hpart => sep_of_mem_parts (hp ▸ hpart)
  rw [components_eq hp, ← filterMap_stripIdle] at h
  by_cases hkept : stripIdle rest = []
  · rw [hkept, List.filterMap_nil, List.append_nil] at h
    obtain ⟨hparent, rfl⟩ := parent?_of_start hp hkept hlast h
    exact ⟨_, hparent, rfl⟩
  · obtain ⟨init, part, c, hinit, hc⟩ := exists_concat_of_stripIdle hkept
    rw [hinit, List.filterMap_append, ← List.append_assoc] at h
    obtain ⟨hcs, -⟩ := List.append_inj' h (by simp [hc])
    rw [← filterMap_stripIdle] at hcs
    have hparent := parent?_of_kept hp hinit
    by_cases hnil : stripIdle init = []
    · rw [hnil, List.filterMap_nil, List.append_nil] at hcs
      rw [if_pos hnil] at hparent
      exact ⟨_, hparent, (components_start _ (hsep first List.mem_cons_self)).trans hcs⟩
    · have hsub : ∀ w ∈ first :: stripIdle init, slash ∉ w := by
        intro w hw
        rcases List.mem_cons.1 hw with rfl | hw
        · exact hsep w List.mem_cons_self
        · have hrest : w ∈ stripIdle rest := by
            rw [hinit]
            exact List.mem_append_left _ (stripIdle_subset init hw)
          exact hsep w (List.mem_cons_of_mem first (stripIdle_subset rest hrest))
      have hq := parts_ofList_joinWith (List.cons_ne_nil first (stripIdle init)) hsub
      have hrest : rest ≠ [] := by
        rintro rfl
        exact hkept rfl
      rw [if_neg hnil] at hparent
      refine ⟨_, hparent, Eq.trans ?_ hcs⟩
      rw [components_eq hq, isAbsolute_congr hp hq fun _ => iff_of_false hrest hnil]

theorem exists_parent? {cs : List Component} {n : List UInt8}
    (h : p.components = cs ++ [.normal n]) : ∃ dir, p.parent? = some dir ∧ dir.components = cs :=
  exists_parent?_of_ne_root (show Component.normal n ≠ .root by simp) h

theorem parent?_eq_none_of_root (h : p.components = [.root]) : p.parent? = none := by
  obtain ⟨first, rest, hp⟩ := p.parts_eq_cons
  have habs : p.isAbsolute = true := isAbsolute_of_root_mem (by rw [h]; exact List.mem_cons_self)
  have hrest : stripIdle rest = [] := by
    refine Decidable.byContradiction fun hkept => ?_
    obtain ⟨init, part, c, hinit, hc⟩ := exists_concat_of_stripIdle hkept
    rw [components_eq hp, habs, ← filterMap_stripIdle, hinit] at h
    simp [start, hc] at h
  rw [parent?_of_idle hp hrest, habs]
  rfl

theorem parent?_prefix (h : p.parent? = some q) : q.components <+: p.components := by
  rcases List.eq_nil_or_concat p.components with hnil | ⟨cs, c, hc⟩
  · obtain ⟨bytes⟩ := p
    cases components_eq_nil_iff.1 hnil
    cases h
  · rw [List.concat_eq_append] at hc
    by_cases hroot : c = .root
    · subst hroot
      obtain rfl := eq_nil_of_root_mem hc List.mem_cons_self
      rw [parent?_eq_none_of_root hc] at h
      cases h
    · obtain ⟨dir, hdir, hcs⟩ := exists_parent?_of_ne_root hroot hc
      rw [h] at hdir
      cases hdir
      exact ⟨[c], by rw [hcs, hc]⟩

end Path

end SourceDigest
