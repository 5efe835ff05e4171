import SourceDigest.Text.Blank
import SourceDigest.Text.Hex
import SourceDigest.Toml.Value

namespace SourceDigest.Toml

open SourceDigest.Text (hexValue? splitOnce)
open Decimal (Binary binary64)

def ungroup (base : Nat) : Bool → List Char → Option (List Nat)
  | true, [] => some []
  | false, [] => none
  | afterDigit, c :: s =>
    if c = '_' then if afterDigit then ungroup base false s else none
    else
      match hexValue? c with
      | some d => if d < base then (ungroup base true s).map (d :: ·) else none
      | none => none

def ofDigits (base : Nat) (digits : List Nat) : Nat := digits.foldl (fun n d => n * base + d) 0

def maxInteger : Nat := 0x7fffffffffffffff

def integer? (negative : Bool) (n : Nat) : Option Value :=
  if negative then if n ≤ maxInteger + 1 then some (.integer (-(n : Int))) else none
  else if n ≤ maxInteger then some (.integer n)
  else none

def based (base : Nat) (s : List Char) : Option Value :=
  (ungroup base false s).bind fun digits => integer? false (ofDigits base digits)

def wholeDigits (s : List Char) : Option (List Nat) :=
  match ungroup 10 false s with
  | some (0 :: _ :: _) => none
  | r => r

def exponent? : List Char → Option Int
  | '+' :: s => (ungroup 10 false s).map fun ds => (ofDigits 10 ds : Int)
  | '-' :: s => (ungroup 10 false s).map fun ds => -(ofDigits 10 ds : Int)
  | s => (ungroup 10 false s).map fun ds => (ofDigits 10 ds : Int)

def fraction? (negative : Bool) (whole part : List Nat) (exponent : Int) : Option Value :=
  let x := binary64.ofDecimal negative (ofDigits 10 (whole ++ part)) (exponent - part.length)
  if x = .infinite false then none else some (.float x)

def isExponentMark (c : Char) : Bool := c == 'e' || c == 'E'

def decimal (negative : Bool) (s : List Char) : Option Value :=
  if s = ['i', 'n', 'f'] then some (.float (.infinite negative))
  else if s = ['n', 'a', 'n'] then some (.float .nan)
  else
    let mantissa := s.takeWhile (!isExponentMark ·)
    let exponent := match s.dropWhile (!isExponentMark ·) with
      | [] => some none
      | _ :: r => (exponent? r).map some
    match splitOnce '.' mantissa, exponent with
    | _, none => none
    | some (whole, part), some e =>
      match wholeDigits whole, ungroup 10 false part with
      | some whole, some part => fraction? negative whole part (e.getD 0)
      | _, _ => none
    | none, some none => (wholeDigits mantissa).bind fun ds => integer? negative (ofDigits 10 ds)
    | none, some (some e) => (wholeDigits mantissa).bind fun ds => fraction? negative ds [] e

def number? : List Char → Option Value
  | '0' :: 'x' :: s => based 16 s
  | '0' :: 'o' :: s => based 8 s
  | '0' :: 'b' :: s => based 2 s
  | '+' :: s => decimal false s
  | '-' :: s => decimal true s
  | s => decimal false s

end SourceDigest.Toml
