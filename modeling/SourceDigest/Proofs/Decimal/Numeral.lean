import SourceDigest.Decimal.Unsigned
import SourceDigest.Proofs.Json.Printing

namespace SourceDigest.Decimal

variable {s : List Char} {c d : Char} {n : Nat}

theorem isDigit_toDigits (n : Nat) : ∀ c ∈ Nat.toDigits 10 n, c.isDigit = true := fun _ hc =>
  Nat.isDigit_of_mem_toDigits (by decide) (Nat.le_refl 10) hc

theorem exists_toDigits (n : Nat) : ∃ c s, Nat.toDigits 10 n = c :: s ∧ c.isDigit = true := by
  obtain ⟨c, s, hdigits⟩ := List.exists_cons_of_ne_nil (Nat.toDigits_ne_nil (n := n) (b := 10))
  exact ⟨c, s, hdigits, isDigit_toDigits n c (hdigits ▸ List.mem_cons_self)⟩

theorem not_mem_toDigits (h : c.isDigit = false) (n : Nat) : c ∉ Nat.toDigits 10 n := by
  intro hc
  exact Json.ne_of_test (isDigit_toDigits n c hc) h rfl

theorem toDigits_ne_cons (h : c.isDigit = false) : Nat.toDigits 10 n ≠ c :: s := by
  intro heq
  exact not_mem_toDigits h n (heq ▸ List.mem_cons_self)

theorem toDigits_ne_cons_cons (h : d.isDigit = false) : Nat.toDigits 10 n ≠ c :: d :: s := by
  intro heq
  exact not_mem_toDigits h n (heq ▸ List.mem_cons_of_mem c List.mem_cons_self)

theorem readDigits_of_digits {limit : Nat} (hs : ∀ c ∈ s, c.isDigit = true)
    (hle : Nat.ofDigitChars 10 s n ≤ limit) :
    readDigits limit n s = .ok (Nat.ofDigitChars 10 s n) := by
  induction s generalizing n with
  | nil => rfl
  | cons c s ih =>
    have hvalue : n * 10 + (c.toNat - '0'.toNat) = 10 * n + (c.toNat - '0'.toNat) := by
      rw [Nat.mul_comm]
    have hnext : 10 * n + (c.toNat - '0'.toNat) ≤ limit :=
      Nat.le_trans (Json.le_ofDigitChars s _) hle
    simp only [readDigits, hs c List.mem_cons_self, if_true, hvalue, if_pos hnext]
    exact ih (fun d hd => hs d (List.mem_cons_of_mem c hd)) hle

theorem readUnsigned_toDigits {limit : Nat} (h : n ≤ limit) :
    readUnsigned limit (Nat.toDigits 10 n) = .ok n := by
  have hvalue : Nat.ofDigitChars 10 (Nat.toDigits 10 n) 0 = n := Nat.ofDigitChars_ten_toDigits
  have hread : readDigits limit 0 (Nat.toDigits 10 n) = .ok n := by
    rw [readDigits_of_digits (isDigit_toDigits n) (hvalue.symm ▸ h), hvalue]
  unfold readUnsigned
  split
  case h_1 heq => exact absurd heq Nat.toDigits_ne_nil
  case h_2 heq => exact absurd heq (toDigits_ne_cons (by decide))
  case h_3 heq => exact absurd heq (toDigits_ne_cons (by decide))
  case h_4 => exact hread

end SourceDigest.Decimal
