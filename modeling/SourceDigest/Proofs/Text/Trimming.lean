import Mathlib.Data.List.Basic
import SourceDigest.Text.Blank

namespace SourceDigest.Text

theorem isAlpha_iff_toNat {c : Char} : c.isAlpha = true ↔
    (65 ≤ c.toNat ∧ c.toNat ≤ 90) ∨ 97 ≤ c.toNat ∧ c.toNat ≤ 122 := by
  show (decide (_ ∧ _) || decide _ && decide _) = true ↔ _
  rw [Bool.or_eq_true, Bool.and_eq_true, decide_eq_true_eq, decide_eq_true_eq, decide_eq_true_eq]
  exact Iff.rfl

theorem isBlank_eq_false_of_isAlphanum {c : Char} (h : c.isAlphanum = true) : isBlank c = false := by
  have hrange : ((65 ≤ c.toNat ∧ c.toNat ≤ 90) ∨ 97 ≤ c.toNat ∧ c.toNat ≤ 122) ∨
      48 ≤ c.toNat ∧ c.toNat ≤ 57 := by
    rcases Bool.or_eq_true_iff.1 h with halpha | hdigit
    · exact Or.inl (isAlpha_iff_toNat.1 halpha)
    · exact Or.inr (Char.isDigit_iff_toNat.1 hdigit)
  simp only [isBlank, Bool.or_eq_false_iff, Bool.and_eq_false_iff, decide_eq_false_iff_not,
    beq_eq_false_iff_ne]
  omega

def EndsSolid (s : List Char) : Prop := ∃ t c, s = t ++ [c] ∧ isBlank c = false

theorem EndsSolid.append (s : List Char) {t : List Char} (h : EndsSolid t) : EndsSolid (s ++ t) := by
  obtain ⟨u, c, rfl, hc⟩ := h
  exact ⟨s ++ u, c, (List.append_assoc s u [c]).symm, hc⟩

theorem dropBlanks_append {b : List Char} (hb : ∀ c ∈ b, isBlank c = true) (s : List Char) :
    dropBlanks (b ++ s) = dropBlanks s :=
  List.dropWhile_append_of_pos hb

theorem dropBlanks_append_of_ne_nil {p : List Char} (h : dropBlanks p ≠ []) (s : List Char) :
    dropBlanks (p ++ s) = dropBlanks p ++ s := by
  induction p with
  | nil => exact absurd rfl h
  | cons c p ih =>
    by_cases hc : isBlank c = true
    · have hdrop : ∀ t, dropBlanks (c :: t) = dropBlanks t := fun t => List.dropWhile_cons_of_pos hc
      rw [hdrop] at h
      rw [List.cons_append, hdrop, hdrop]
      exact ih h
    · have hdrop : ∀ t, dropBlanks (c :: t) = c :: t := fun t => List.dropWhile_cons_of_neg hc
      rw [List.cons_append, hdrop, hdrop]
      rfl

theorem dropBlanks_eq_nil_iff {p : List Char} : dropBlanks p = [] ↔ ∀ c ∈ p, isBlank c = true := by
  constructor
  · intro h
    obtain ⟨b, hb, hblank⟩ := exists_append_dropBlanks p
    rw [h, List.append_nil] at hb
    rw [hb]
    exact hblank
  · intro h
    have hdrop := dropBlanks_append h []
    rwa [List.append_nil] at hdrop

theorem isBlank_of_head_dropBlanks {p : List Char} {c : Char} (h : c ∈ (dropBlanks p).head?) :
    isBlank c = false := by
  have hne : dropBlanks p ≠ [] := by
    intro hnil
    rw [hnil] at h
    cases h
  have hhead := List.head_dropWhile_not isBlank hne
  obtain ⟨t, ht⟩ := List.head?_eq_some_iff.1 h
  simp only [dropBlanks] at ht
  simpa only [ht, List.head_cons] using hhead

theorem dropBlanks_append_cons {c : Char} (hc : isBlank c = false) (p s : List Char) :
    dropBlanks (p ++ c :: s) = dropBlanks p ++ c :: s := by
  by_cases hp : dropBlanks p = []
  · rw [dropBlanks_append (dropBlanks_eq_nil_iff.1 hp), dropBlanks_cons_of_not hc, hp, List.nil_append]
  · exact dropBlanks_append_of_ne_nil hp _

theorem reverse_isBlank {b : List Char} (hb : ∀ c ∈ b, isBlank c = true) :
    ∀ c ∈ b.reverse, isBlank c = true := by
  intro c hc
  exact hb c (List.mem_reverse.1 hc)

theorem dropEndBlanks_append {b : List Char} (hb : ∀ c ∈ b, isBlank c = true) (s : List Char) :
    dropEndBlanks (s ++ b) = dropEndBlanks s := by
  rw [dropEndBlanks, List.reverse_append, List.dropWhile_append_of_pos (reverse_isBlank hb)]
  rfl

theorem dropEndBlanks_append_of_endsSolid {s : List Char} (hs : EndsSolid s) (t : List Char) :
    dropEndBlanks (s ++ t) = s ++ dropEndBlanks t := by
  obtain ⟨u, c, rfl, hc⟩ := hs
  have hdrop := dropBlanks_append_cons hc t.reverse u.reverse
  rw [dropBlanks, dropBlanks] at hdrop
  rw [dropEndBlanks, dropEndBlanks, List.append_assoc, List.reverse_append, List.reverse_append,
    List.reverse_singleton, List.append_assoc, List.singleton_append, hdrop, List.reverse_append,
    List.reverse_cons, List.reverse_reverse]

theorem dropEndBlanks_of_endsSolid {s b : List Char} (hs : EndsSolid s)
    (hb : ∀ c ∈ b, isBlank c = true) : dropEndBlanks (s ++ b) = s := by
  have hnil : dropEndBlanks b = [] := dropEndBlanks_append hb []
  rw [dropEndBlanks_append_of_endsSolid hs, hnil, List.append_nil]

theorem trimChars_append {b : List Char} (hb : ∀ c ∈ b, isBlank c = true) (s : List Char) :
    trimChars (s ++ b) = trimChars s := by
  by_cases hs : dropBlanks s = []
  · have hall : ∀ c ∈ s ++ b, isBlank c = true := by
      intro c hc
      exact (List.mem_append.1 hc).elim (dropBlanks_eq_nil_iff.1 hs c) (hb c)
    have hnil : dropBlanks (s ++ b) = [] := dropBlanks_eq_nil_iff.2 hall
    rw [trimChars, trimChars, hs, hnil]
  · rw [trimChars, dropBlanks_append_of_ne_nil hs, dropEndBlanks_append hb]
    rfl

theorem dropBlanks_of_solid {s : List Char} (h : ∀ c ∈ s, isBlank c = false) : dropBlanks s = s := by
  cases s with
  | nil => rfl
  | cons c s => exact dropBlanks_cons_of_not (h c List.mem_cons_self)

theorem trimChars_of_solid {s : List Char} (h : ∀ c ∈ s, isBlank c = false) : trimChars s = s := by
  have hend : dropBlanks s.reverse = s.reverse :=
    dropBlanks_of_solid fun c hc => h c (List.mem_reverse.1 hc)
  rw [dropBlanks] at hend
  rw [trimChars, dropBlanks_of_solid h, dropEndBlanks, hend, List.reverse_reverse]

theorem trimChars_around {c : Char} {s : List Char} (hc : isBlank c = false)
    (hs : EndsSolid (c :: s)) (p t : List Char) :
    trimChars (p ++ (c :: s ++ t)) = dropBlanks p ++ (c :: s ++ dropEndBlanks t) := by
  have hends : EndsSolid (dropBlanks p ++ c :: s) := hs.append _
  rw [trimChars, List.cons_append, dropBlanks_append_cons hc, ← List.cons_append,
    ← List.append_assoc, dropEndBlanks_append_of_endsSolid hends, List.append_assoc]

theorem trimChars_of_edges {c : Char} {a s b : List Char} (ha : ∀ c ∈ a, isBlank c = true)
    (hc : isBlank c = false) (hs : EndsSolid (c :: s)) (hb : ∀ c ∈ b, isBlank c = true) :
    trimChars (a ++ (c :: s ++ b)) = c :: s := by
  rw [← List.append_assoc, trimChars_append hb]
  have hedges := trimChars_around hc hs a []
  have hnil : dropBlanks a = [] := dropBlanks_eq_nil_iff.2 ha
  rw [List.append_nil, hnil, dropEndBlanks_nil, List.append_nil] at hedges
  exact hedges

end SourceDigest.Text
