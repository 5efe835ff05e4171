import Mathlib.Data.List.Basic
import SourceDigest.Text.Lowercase

namespace SourceDigest.Text

theorem toLower_eq_iff {c d : Char} (hd : d.toNat < 65) : c.toLower = d ↔ c = d := by
  unfold Char.toLower
  split
  · rename_i hupper
    have hfrom : 65 ≤ c.toNat := UInt32.le_iff_toNat_le.1 hupper.1
    have hto : c.toNat ≤ 90 := UInt32.le_iff_toNat_le.1 hupper.2
    constructor
    · rintro rfl
      have hval : (c.val + ('a'.val - 'A'.val)).toNat < 65 := hd
      have hstep : ('a'.val - 'A'.val).toNat = 32 := rfl
      have hc : c.val.toNat = c.toNat := rfl
      rw [UInt32.toNat_add, hstep, hc] at hval
      omega
    · rintro rfl
      omega
  · exact Iff.rfl

theorem lowerRuns_above_dot {r : Nat × Nat × Nat × Int} (h : r ∈ lowerRuns) :
    (46 : Int) < r.1 + r.2.2.2 := by
  have hall : (lowerRuns.all fun r => decide ((46 : Int) < r.1 + r.2.2.2)) = true := by
    decide +kernel
  exact of_decide_eq_true (List.all_eq_true.1 hall r h)

theorem ofNat_ne_dot {n : Nat} (h : n ≠ 46) : Char.ofNat n ≠ '.' := by
  by_cases hvalid : n.isValidChar
  · rw [Char.ofNat, dif_pos hvalid]
    exact fun he => h (congrArg Char.toNat he)
  · rw [Char.ofNat, dif_neg hvalid]
    decide

theorem head?_lowerChar {c : Char} : (lowerChar c).head? = some '.' ↔ c = '.' := by
  unfold lowerChar
  simp only
  split
  · rw [List.head?_cons, Option.some.injEq]
    exact toLower_eq_iff (by decide)
  · rename_i hn
    have hc : c ≠ '.' := by
      rintro rfl
      exact hn (by decide)
    refine iff_of_false ?_ hc
    split
    · decide
    · split
      · rename_i lo hi step delta hrun
        have habove := lowerRuns_above_dot (List.mem_of_find?_eq_some hrun)
        have hin := List.find?_some hrun
        simp only [Bool.and_eq_true, decide_eq_true_eq] at hin habove
        rw [List.head?_cons, Option.some.injEq]
        exact ofNat_ne_dot (by omega)
      · simpa using hc

theorem lowerChar_ne_nil (c : Char) : lowerChar c ≠ [] := by
  unfold lowerChar
  simp only
  split
  · exact List.cons_ne_nil _ _
  · split
    · exact List.cons_ne_nil _ _
    · split <;> exact List.cons_ne_nil _ _

theorem head?_lowerChars (s : List Char) :
    (lowerChars s).head? = some '.' ↔ s.head? = some '.' := by
  cases s with
  | nil => exact Iff.rfl
  | cons c s =>
    rw [lowerChars, List.flatMap_cons, List.head?_append_of_ne_nil _ (lowerChar_ne_nil c),
      head?_lowerChar, List.head?_cons, Option.some.injEq]

end SourceDigest.Text
