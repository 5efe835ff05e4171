namespace SourceDigest.Decimal

inductive UnsignedError where
  | empty
  | notDigit
  | tooLarge
  deriving DecidableEq, Repr

def UnsignedError.message : UnsignedError → String
  | .empty => "cannot parse integer from empty string"
  | .notDigit => "invalid digit found in string"
  | .tooLarge => "number too large to fit in target type"

def readDigits (limit : Nat) : Nat → List Char → Except UnsignedError Nat
  | n, [] => .ok n
  | n, c :: s =>
    if c.isDigit then
      let next := n * 10 + (c.toNat - '0'.toNat)
      if next ≤ limit then readDigits limit next s else .error .tooLarge
    else .error .notDigit

def readUnsigned (limit : Nat) : List Char → Except UnsignedError Nat
  | [] => .error .empty
  | ['+'] => .error .notDigit
  | '+' :: s => readDigits limit 0 s
  | s => readDigits limit 0 s

theorem readDigits_le {limit n k : Nat} {s : List Char} (hn : n ≤ limit)
    (h : readDigits limit n s = .ok k) : k ≤ limit := by
  induction s generalizing n with
  | nil =>
    simp only [readDigits, Except.ok.injEq] at h
    exact h ▸ hn
  | cons c s ih =>
    simp only [readDigits] at h
    split at h
    · split at h
      · rename_i hle
        exact ih hle h
      · cases h
    · cases h

theorem readUnsigned_le {limit k : Nat} {s : List Char} (h : readUnsigned limit s = .ok k) :
    k ≤ limit := by
  unfold readUnsigned at h
  split at h
  · cases h
  · cases h
  · exact readDigits_le (Nat.zero_le _) h
  · exact readDigits_le (Nat.zero_le _) h

end SourceDigest.Decimal
