import SourceDigest.Decimal.Binary

namespace SourceDigest.Decimal

structure Interval where
  low : Nat
  value : Nat
  high : Nat
  den : Nat
  closed : Bool

def Interval.contains (i : Interval) (num den : Nat) : Bool :=
  if i.closed then i.low * den ≤ num * i.den && num * i.den ≤ i.high * den
  else i.low * den < num * i.den && num * i.den < i.high * den

def Format.interval (f : Format) (m : Nat) (e : Int) : Interval :=
  let up := e.toNat
  let gap := if m = 1 <<< (f.precision - 1) ∧ e > f.minExponent then 1 else 2
  ⟨(4 * m - gap) <<< up, (4 * m) <<< up, (4 * m + 2) <<< up, 4 <<< (-e).toNat, m % 2 == 0⟩

structure Digits where
  digits : Nat
  exponent : Int
  deriving DecidableEq, Repr

def floorLog10 (num den : Nat) : Int :=
  if den ≤ num then ((Nat.toDigits 10 (num / den)).length : Int) - 1
  else
    let up := (Nat.toDigits 10 (den / num)).length
    if den ≤ num * tenTo (up - 1) then -((up : Int) - 1) else -(up : Int)

def Interval.neighbour? (i : Interval) (unit : Int) : Option Digits :=
  let num := i.value * tenTo (-unit).toNat
  let den := i.den * tenTo unit.toNat
  let lower := num / den
  let inside (d : Nat) : Bool := i.contains (d * tenTo unit.toNat) (tenTo (-unit).toNat)
  let nearest := roundDiv num den
  let other := if nearest = lower then lower + 1 else lower
  if inside nearest then some ⟨nearest, unit⟩
  else if inside other then some ⟨other, unit⟩
  else none

def Interval.search (i : Interval) : Nat → Int → Digits
  | 0, unit => (i.neighbour? unit).getD ⟨0, 0⟩
  | n + 1, unit => (i.neighbour? unit).getD (i.search n (unit - 1))

def Digits.strip : Nat → Digits → Digits
  | 0, d => d
  | n + 1, d => if d.digits ≠ 0 ∧ d.digits % 10 = 0 then strip n ⟨d.digits / 10, d.exponent + 1⟩ else d

def Format.shortest (f : Format) (m : Nat) (e : Int) : Digits :=
  if m = 0 then ⟨0, 0⟩
  else
    let i := f.interval m e
    (i.search 17 (floorLog10 i.value i.den)).strip 20

structure Layout where
  positionalFrom : Option Int
  positionalBelow : Option Int
  pointAlways : Bool

def Layout.isPositional (l : Layout) (e : Int) : Bool :=
  l.positionalFrom.all (· ≤ e) && l.positionalBelow.all (e < ·)

def zeros (n : Nat) : List Char := List.replicate n '0'

def Layout.render (l : Layout) (d : Digits) : List Char :=
  let ds := Nat.toDigits 10 d.digits
  let point : Int := ds.length + d.exponent
  if d.digits = 0 then (if l.pointAlways then ['0', '.', '0'] else ['0'])
  else if l.isPositional (point - 1) then
    if ds.length ≤ point then
      ds ++ zeros (point.toNat - ds.length) ++ (if l.pointAlways then ['.', '0'] else [])
    else if 0 < point then ds.take point.toNat ++ '.' :: ds.drop point.toNat
    else '0' :: '.' :: zeros (-point).toNat ++ ds
  else
    let mantissa := match ds with
      | [] => []
      | [c] => [c]
      | c :: rest => c :: '.' :: rest
    let sign := if point - 1 < 0 then '-' else '+'
    mantissa ++ 'e' :: sign :: Nat.toDigits 10 (point - 1).natAbs

def Binary.text (f : Format) (l : Layout) : Binary → String
  | .finite s m e => String.ofList ((if s then ['-'] else []) ++ l.render (f.shortest m e))
  | .infinite s => if s then "-inf" else "inf"
  | .nan => "NaN"

def exchange : Layout := ⟨some (-5), some 16, true⟩

def plain : Layout := ⟨none, none, false⟩

end SourceDigest.Decimal
