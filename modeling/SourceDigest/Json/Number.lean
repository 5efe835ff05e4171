import SourceDigest.Json.Fault

namespace SourceDigest.Json

open Decimal (Binary binary64)

abbrev Reading (α : Type) := Except Fault (α × List Char)

def faultAt {α : Type} (p : Problem) (s : List Char) : Except Fault α := .error ⟨p, s, 1⟩

def faultBefore {α : Type} (p : Problem) (s : List Char) : Except Fault α := .error ⟨p, s, 0⟩

def maxNatural : Nat := UInt64.size - 1

def maxExponentDigits : Nat := 0x7fffffff

def digitValue (c : Char) : Nat := c.toNat - '0'.toNat

def startsWithDigit : List Char → Bool
  | c :: _ => c.isDigit
  | [] => false

def gather (limit : Nat) : Nat → List Char → Nat × Nat × List Char
  | n, [] => (n, 0, [])
  | n, c :: s =>
    if c.isDigit && n * 10 + digitValue c ≤ limit then
      let (v, k, r) := gather limit (n * 10 + digitValue c) s
      (v, k + 1, r)
    else (n, 0, c :: s)

theorem gather_le {limit n : Nat} {s : List Char} (h : n ≤ limit) : (gather limit n s).1 ≤ limit := by
  induction s generalizing n with
  | nil => exact h
  | cons c s ih =>
    simp only [gather]
    split
    · rename_i hc
      simp only [Bool.and_eq_true, decide_eq_true_eq] at hc
      exact ih hc.2
    · exact h

theorem gather_suffix (limit n : Nat) (s : List Char) : (gather limit n s).2.2 <:+ s := by
  induction s generalizing n with
  | nil => exact List.suffix_rfl
  | cons c s ih =>
    simp only [gather]
    split
    · exact (ih _).trans (List.suffix_cons c s)
    · exact List.suffix_rfl

def tenPower (k : Nat) : Nat :=
  match binary64.round false (Decimal.tenTo k) 1 with
  | .finite _ m e => (m <<< e.toNat) >>> (-e).toNat
  | _ => 0

def divideTen : Nat → Binary → Nat → Binary
  | 0, x, _ => x
  | n + 1, x, k =>
    if k ≤ 308 then x.divNat binary64 (tenPower k)
    else if x.isZero then x
    else divideTen n (x.divNat binary64 (tenPower 308)) (k - 308)

def scaleTen (significand : Nat) (exponent : Int) : Option Binary :=
  let x := binary64.round false significand 1
  if exponent < 0 then some (divideTen 4 x (-exponent).toNat)
  else if exponent ≤ 308 then
    match x.mulNat binary64 (tenPower exponent.toNat) with
    | .infinite _ => none
    | y => some y
  else if x.isZero then some x
  else none

def fraction (positive : Bool) (significand : Nat) (exponent : Int) (rest : List Char) :
    Reading Number :=
  match scaleTen significand exponent with
  | some x => .ok (.float (if positive then x else x.negate), rest)
  | none => faultBefore .numberRange rest

def readExponent (positive : Bool) (significand : Nat) (start : Int) (s : List Char) :
    Reading Number :=
  let (up, s) := match s with
    | '+' :: r => (true, r)
    | '-' :: r => (false, r)
    | r => (true, r)
  match s with
  | [] => faultBefore .endInValue []
  | c :: r =>
    if c.isDigit then
      let (e, _, r) := gather maxExponentDigits (digitValue c) r
      if startsWithDigit r then
        if significand ≠ 0 && up then faultAt .numberRange r
        else
          let zero := Binary.finite (!positive) 0 binary64.minExponent
          .ok (.float zero, r.dropWhile Char.isDigit)
      else fraction positive significand (if up then start + e else start - e) r
    else faultAt .badNumber s

def readScale (positive : Bool) (significand : Nat) (exponent : Int) (s : List Char) :
    Reading Number :=
  match s with
  | 'e' :: r => readExponent positive significand exponent r
  | 'E' :: r => readExponent positive significand exponent r
  | _ => fraction positive significand exponent s

def readPoint (positive : Bool) (significand : Nat) (exponent : Int) (s : List Char) :
    Reading Number :=
  let (v, k, r) := gather maxNatural significand s
  if startsWithDigit r then readScale positive v (exponent - k) (r.dropWhile Char.isDigit)
  else if k = 0 then
    if r.isEmpty then faultBefore .endInValue [] else faultAt .badNumber r
  else readScale positive v (exponent - k) r

def wholeNumber (positive : Bool) (n : Nat) : Number :=
  if positive then .natural n
  else if 0 < n && n ≤ UInt64.size / 2 then .negative n
  else .float ((binary64.round false n 1).negate)

def readTail (positive : Bool) (significand : Nat) (s : List Char) : Reading Number :=
  match s with
  | '.' :: r => readPoint positive significand 0 r
  | 'e' :: r => readExponent positive significand 0 r
  | 'E' :: r => readExponent positive significand 0 r
  | _ => .ok (wholeNumber positive significand, s)

def readNumber (positive : Bool) (s : List Char) : Reading Number :=
  match s with
  | [] => faultBefore .endInValue []
  | '0' :: r => if startsWithDigit r then faultAt .badNumber r else readTail positive 0 r
  | c :: r =>
    if c.isDigit then
      let (v, _, r) := gather maxNatural (digitValue c) r
      if startsWithDigit r then
        let extra : Int := (r.takeWhile Char.isDigit).length
        match r.dropWhile Char.isDigit with
        | '.' :: t => readPoint positive v extra t
        | t => readScale positive v extra t
      else readTail positive v r
    else faultAt .badNumber s

end SourceDigest.Json
