import Mathlib.Data.List.TakeWhile
import SourceDigest.Text.Split

namespace SourceDigest.Text

variable {sep : Char} {p s w : List Char}

theorem splitOnce_eq_none (h : sep ∉ s) : splitOnce sep s = none := by
  have hnone : s.dropWhile (· != sep) = [] := by
    rw [List.dropWhile_eq_nil_iff]
    intro c hc
    exact bne_iff_ne.2 fun hsep => h (hsep ▸ hc)
  rw [splitOnce, hnone]

theorem splitLast_of_not_mem (h : sep ∉ s) : splitLast sep s = (none, s) := by
  rw [splitLast, splitOnce_eq_none (mt List.mem_reverse.1 h)]

theorem splitLast_append_cons (s : List Char) (h : sep ∉ w) :
    splitLast sep (s ++ sep :: w) = (some s, w) := by
  have hreverse : (s ++ sep :: w).reverse = w.reverse ++ sep :: s.reverse := by simp
  rw [splitLast, hreverse, splitOnce_append_cons (mt List.mem_reverse.1 h)]
  simp

theorem exists_last_of_mem (h : sep ∈ s) : ∃ t w, s = t ++ sep :: w ∧ sep ∉ w := by
  obtain ⟨w, t, hw, hsep⟩ := List.eq_append_cons_of_mem (List.mem_reverse.2 h)
  refine ⟨t.reverse, w.reverse, ?_, mt List.mem_reverse.1 hsep⟩
  rw [← List.reverse_reverse s, hw]
  simp

theorem last_inj {t t' w' : List Char} (h : t ++ sep :: w = t' ++ sep :: w') (hw : sep ∉ w)
    (hw' : sep ∉ w') : t = t' ∧ w = w' := by
  have hsplit := congrArg (splitLast sep) h
  rw [splitLast_append_cons t hw, splitLast_append_cons t' hw'] at hsplit
  simpa using hsplit

theorem suffix_before_last_iff {t : List Char} (hw : sep ∉ w) :
    p <:+ t ↔ ∃ a b, t ++ sep :: w = a ++ (p ++ [sep]) ++ b ∧ sep ∉ b := by
  constructor
  · rintro ⟨a, rfl⟩
    exact ⟨a, w, by simp, hw⟩
  · rintro ⟨a, b, h, hb⟩
    have hcut : t ++ sep :: w = a ++ p ++ sep :: b := by simpa using h
    obtain ⟨rfl, -⟩ := last_inj hcut hw hb
    exact List.suffix_append a p

theorem infix_append_last_iff {t : List Char} (hw : sep ∉ w) :
    p ++ [sep] <:+: t ++ sep :: w ↔ p <:+ t ∨ p ++ [sep] <:+: t := by
  constructor
  · rintro ⟨a, b, h⟩
    by_cases hb : sep ∈ b
    · obtain ⟨c, d, rfl, hd⟩ := exists_last_of_mem hb
      have hcut : a ++ (p ++ [sep]) ++ c ++ sep :: d = t ++ sep :: w := by simpa using h
      obtain ⟨rfl, -⟩ := last_inj hcut hd hw
      exact Or.inr ⟨a, c, rfl⟩
    · exact Or.inl ((suffix_before_last_iff hw).2 ⟨a, b, h.symm, hb⟩)
  · rintro (h | h)
    · obtain ⟨a, b, h, -⟩ := (suffix_before_last_iff hw).1 h
      exact ⟨a, b, h.symm⟩
    · exact h.trans (List.prefix_append t (sep :: w)).isInfix

theorem starts_and_ends_iff (h : sep ∉ p) :
    p <+: s ∧ sep :: w <:+ s ↔ ∃ t, s = p ++ t ++ sep :: w := by
  constructor
  · rintro ⟨⟨a, rfl⟩, b, hb⟩
    rcases List.append_eq_append_iff.1 hb with ⟨c, rfl, hc⟩ | ⟨c, rfl, rfl⟩
    · cases c with
      | nil => exact ⟨[], by simpa using hc.symm⟩
      | cons d c =>
        obtain ⟨rfl, -⟩ := List.cons.inj hc
        simp at h
    · exact ⟨c, by simp⟩
  · rintro ⟨t, rfl⟩
    exact ⟨⟨t ++ sep :: w, by simp⟩, p ++ t, rfl⟩

theorem prefix_append_cons_iff {t : List Char} (h : sep ∉ p) : p <+: t ++ sep :: w ↔ p <+: t := by
  refine ⟨fun hp => ?_, fun hp => hp.trans (List.prefix_append t _)⟩
  rcases List.prefix_or_prefix_of_prefix hp (List.prefix_append t (sep :: w)) with hpt | ⟨u, rfl⟩
  · exact hpt
  · cases u with
    | nil => simp
    | cons c u =>
      obtain ⟨rfl, -⟩ := List.cons_prefix_cons.1 ((List.prefix_append_right_inj t).1 hp)
      simp at h

theorem splitOn_concat (s : List Char) (h : sep ∉ w) :
    splitOn sep (s ++ sep :: w) = splitOn sep s ++ [w] := by
  rw [splitOn_append_sep, splitOn_eq_singleton h]

theorem splitLast_snd (sep : Char) (s : List Char) :
    (splitLast sep s).2 = (splitOn sep s).getLast (splitOn_ne_nil sep s) := by
  by_cases hs : sep ∈ s
  · obtain ⟨t, w, rfl, hw⟩ := exists_last_of_mem hs
    simp [splitLast_append_cons t hw, splitOn_concat t hw]
  · simp [splitLast_of_not_mem hs, splitOn_eq_singleton hs]

theorem mem_or_of_mem_joinWith {c : Char} {between : List Char} {ws : List (List Char)}
    (h : c ∈ joinWith between ws) : c ∈ between ∨ ∃ w ∈ ws, c ∈ w := by
  induction ws with
  | nil => cases h
  | cons w ws ih =>
    cases ws with
    | nil => exact Or.inr ⟨w, List.mem_cons_self, h⟩
    | cons v ws =>
      rw [joinWith_cons_cons _ _ (List.cons_ne_nil v ws), List.append_assoc] at h
      rcases List.mem_append.1 h with h | h
      · exact Or.inr ⟨w, List.mem_cons_self, h⟩
      · rcases List.mem_append.1 h with h | h
        · exact Or.inl h
        · refine (ih h).imp_right ?_
          rintro ⟨u, hu, hc⟩
          exact ⟨u, List.mem_cons_of_mem w hu, hc⟩

theorem joinWith_eq_intercalate (between : List Char) (ws : List (List Char)) :
    joinWith between ws = between.intercalate ws := by
  induction ws with
  | nil => rfl
  | cons w ws ih =>
    cases ws with
    | nil => simp [joinWith, List.intercalate]
    | cons v ws =>
      rw [joinWith_cons_cons _ _ (List.cons_ne_nil v ws), ih]
      simp [List.intercalate]

theorem contains_iff : contains p s = true ↔ p <:+: s := by
  induction s with
  | nil => cases p <;> simp [contains, cutAt]
  | cons c s ih =>
    rw [List.infix_cons_iff, ← ih, contains, contains, cutAt, ← List.isPrefixOf_iff_prefix]
    split
    · rename_i h
      simp [h]
    · rename_i h
      simp [h]

theorem exists_around_of_mem_splitOn (h : w ∈ splitOn sep s) :
    ∃ a b, s = a ++ w ++ b ∧ (a = [] ∨ ∃ u, a = u ++ [sep]) ∧ (b = [] ∨ ∃ u, b = sep :: u) := by
  induction hn : s.length using Nat.strong_induction_on generalizing s with
  | _ n ih =>
    by_cases hs : sep ∈ s
    · obtain ⟨u, v, rfl, hu⟩ := List.eq_append_cons_of_mem hs
      rw [splitOn_append_cons hu] at h
      rcases List.mem_cons.1 h with rfl | h
      · exact ⟨[], sep :: v, rfl, Or.inl rfl, Or.inr ⟨v, rfl⟩⟩
      · have hlt : v.length < n := by
          rw [← hn, List.length_append, List.length_cons]
          omega
        obtain ⟨a, b, rfl, ha, hb⟩ := ih v.length hlt h rfl
        refine ⟨u ++ sep :: a, b, by simp, Or.inr ?_, hb⟩
        rcases ha with rfl | ⟨t, rfl⟩
        · exact ⟨u, rfl⟩
        · exact ⟨u ++ sep :: t, by simp⟩
    · rw [splitOn_eq_singleton hs, List.mem_singleton] at h
      exact ⟨[], [], by simp [h], Or.inl rfl, Or.inl rfl⟩

theorem mem_splitOn_iff :
    w ∈ splitOn sep s ↔ sep ∉ w ∧ ∃ a b, s = a ++ w ++ b ∧ (a = [] ∨ ∃ u, a = u ++ [sep]) ∧
      (b = [] ∨ ∃ u, b = sep :: u) := by
  constructor
  · intro h
    exact ⟨not_mem_of_mem_splitOn h, exists_around_of_mem_splitOn h⟩
  · rintro ⟨hw, a, b, rfl, ha, hb⟩
    have hrest : w ∈ splitOn sep (w ++ b) := by
      rcases hb with rfl | ⟨u, rfl⟩
      · rw [List.append_nil, splitOn_eq_singleton hw]
        exact List.mem_cons_self
      · rw [splitOn_append_cons hw]
        exact List.mem_cons_self
    rcases ha with rfl | ⟨u, rfl⟩
    · exact hrest
    · rw [List.append_assoc, List.append_assoc, List.singleton_append, splitOn_append_sep]
      exact List.mem_append_right _ hrest

theorem head?_splitOn_iff :
    (splitOn sep s).head? = some w ↔
      sep ∉ w ∧ ∃ b, s = w ++ b ∧ (b = [] ∨ ∃ u, b = sep :: u) := by
  constructor
  · intro h
    by_cases hs : sep ∈ s
    · obtain ⟨u, v, rfl, hu⟩ := List.eq_append_cons_of_mem hs
      rw [splitOn_append_cons hu] at h
      obtain rfl := Option.some.inj h
      exact ⟨hu, sep :: v, rfl, Or.inr ⟨v, rfl⟩⟩
    · rw [splitOn_eq_singleton hs] at h
      obtain rfl := Option.some.inj h
      exact ⟨hs, [], by simp, Or.inl rfl⟩
  · rintro ⟨hw, b, rfl, rfl | ⟨u, rfl⟩⟩
    · rw [List.append_nil, splitOn_eq_singleton hw]
      rfl
    · rw [splitOn_append_cons hw]
      rfl

end SourceDigest.Text
