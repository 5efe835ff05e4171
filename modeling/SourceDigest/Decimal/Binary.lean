namespace SourceDigest.Decimal

structure Format where
  precision : Nat
  minExponent : Int
  maxExponent : Int

def binary64 : Format := ⟨53, -1074, 971⟩

def binary32 : Format := ⟨24, -149, 104⟩

inductive Binary where
  | finite (negative : Bool) (significand : Nat) (exponent : Int)
  | infinite (negative : Bool)
  | nan
  deriving DecidableEq, Repr

def roundDiv (num den : Nat) : Nat :=
  let q := num / den
  let r := num % den
  if 2 * r > den || (2 * r == den && q % 2 == 1) then q + 1 else q

theorem roundDiv_le (num den : Nat) : roundDiv num den ≤ num / den + 1 := by
  unfold roundDiv
  dsimp only
  split <;> omega

theorem le_roundDiv (num den : Nat) : num / den ≤ roundDiv num den := by
  unfold roundDiv
  dsimp only
  split <;> omega

theorem roundDiv_mul (n den : Nat) (h : 0 < den) : roundDiv (n * den) den = n := by
  simp [roundDiv, Nat.mul_div_cancel n h]
  omega

def scaleDown (num den : Nat) (e : Int) : Nat × Nat :=
  (num <<< (-e).toNat, den <<< e.toNat)

def Format.exponentOf (f : Format) (num den : Nat) : Int :=
  let low := (num.log2 : Int) - (den.log2 : Int) - (f.precision : Int)
  let (n, d) := scaleDown num den low
  max f.minExponent (if n < d <<< f.precision then low else low + 1)

def Format.round (f : Format) (negative : Bool) (num den : Nat) : Binary :=
  if num = 0 then .finite negative 0 f.minExponent
  else
    let e := f.exponentOf num den
    let (n, d) := scaleDown num den e
    let q := roundDiv n d
    let (m, e) := if q = 1 <<< f.precision then (1 <<< (f.precision - 1), e + 1) else (q, e)
    if e > f.maxExponent then .infinite negative else .finite negative m e

namespace Binary

def isZero : Binary → Bool
  | .finite _ m _ => m == 0
  | _ => false

def negate : Binary → Binary
  | .finite s m e => .finite (!s) m e
  | .infinite s => .infinite (!s)
  | .nan => .nan

theorem negate_negate (x : Binary) : x.negate.negate = x := by
  cases x <;> simp [negate]

def mulNat (f : Format) (x : Binary) (k : Nat) : Binary :=
  match x with
  | .finite s m e => f.round s ((m * k) <<< e.toNat) (1 <<< (-e).toNat)
  | y => y

def divNat (f : Format) (x : Binary) (k : Nat) : Binary :=
  match x with
  | .finite s m e => f.round s (m <<< e.toNat) (k <<< (-e).toNat)
  | y => y

def convert (f : Format) : Binary → Binary
  | .finite s m e => f.round s (m <<< e.toNat) (1 <<< (-e).toNat)
  | y => y

end Binary

def tenTo (n : Nat) : Nat := Nat.pow 10 n

def Format.ofDecimal (f : Format) (negative : Bool) (digits : Nat) (exponent : Int) : Binary :=
  let size : Int := (Nat.toDigits 10 digits).length
  if digits = 0 || exponent + size < -400 then .finite negative 0 f.minExponent
  else if exponent + size > 400 then .infinite negative
  else f.round negative (digits * tenTo exponent.toNat) (tenTo (-exponent).toNat)

end SourceDigest.Decimal
