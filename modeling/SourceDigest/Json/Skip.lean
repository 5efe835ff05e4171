import SourceDigest.Json.Reader

namespace SourceDigest.Json

def nextSkipped (_ : Bool) (s : List Char) : Reading (Option Unit) :=
  match s with
  | [] => faultBefore .endInString []
  | '"' :: r => .ok (none, r)
  | '\\' :: 'u' :: r => (readHexFour r).map fun (_, r) => (some (), r)
  | '\\' :: r => (readEscape r).map fun (_, r) => (some (), r)
  | c :: r => if c.toNat < 0x20 then faultBefore .controlCharacter s else .ok (some (), r)

def skipString (s : List Char) : Reading Unit :=
  (readParts nextSkipped (s.length + 1) true s).map fun (_, r) => ((), r)

def dropDigits (s : List Char) : List Char := s.dropWhile Char.isDigit

def skipExponent (s : List Char) : Reading Unit :=
  let s := match s with
    | '+' :: r => r
    | '-' :: r => r
    | r => r
  if startsWithDigit s then .ok ((), dropDigits s) else faultAt .badNumber s

def skipScale (s : List Char) : Reading Unit :=
  match s with
  | 'e' :: r => skipExponent r
  | 'E' :: r => skipExponent r
  | _ => .ok ((), s)

def skipTail (s : List Char) : Reading Unit :=
  match s with
  | '.' :: r => if startsWithDigit r then skipScale (dropDigits r) else faultAt .badNumber r
  | _ => skipScale s

def skipNumber (s : List Char) : Reading Unit :=
  match s with
  | '0' :: r => if startsWithDigit r then faultAt .badNumber r else skipTail r
  | _ => if startsWithDigit s then skipTail (dropDigits s) else faultAt .badNumber s

inductive Frame where
  | list
  | object
  deriving DecidableEq, Repr

namespace Frame

def closer : Frame → Char
  | .list => ']'
  | .object => '\x7d'

def endProblem : Frame → Problem
  | .list => .endInList
  | .object => .endInObject

def commaProblem : Frame → Problem
  | .list => .wantedListCommaOrEnd
  | .object => .wantedObjectCommaOrEnd

end Frame

def skipKey (s : List Char) : Reading Unit :=
  match skipSpace s with
  | [] => faultBefore .endInObject []
  | '"' :: r =>
    match skipString r with
    | .error f => .error f
    | .ok (_, r) => readColon r
  | r => faultAt .keyNotString r

def enter (frame : Frame) (s : List Char) : Reading Unit :=
  match frame with
  | .list => .ok ((), s)
  | .object => skipKey s

inductive Expecting where
  | value
  | close (comma : Bool)
  deriving DecidableEq, Repr

/-- Reads past values inside the open frames, innermost first. The bound on the number of steps is
twice the length of the text. -/
def skipFrames : Nat → Expecting → List Frame → List Char → Reading Unit
  | 0, _, _, s => faultBefore .endInValue s
  | n + 1, .value, frames, s =>
    let scalar (r : Reading Unit) : Reading Unit :=
      match r with
      | .error f => .error f
      | .ok (_, r) => skipFrames n (.close true) frames r
    match skipSpace s with
    | [] => faultBefore .endInValue []
    | 'n' :: r => scalar ((readWord ['u', 'l', 'l'] .null r).map fun (_, r) => ((), r))
    | 't' :: r => scalar ((readWord ['r', 'u', 'e'] .null r).map fun (_, r) => ((), r))
    | 'f' :: r => scalar ((readWord ['a', 'l', 's', 'e'] .null r).map fun (_, r) => ((), r))
    | '-' :: r => scalar (skipNumber r)
    | '"' :: r => scalar (skipString r)
    | '[' :: r => skipFrames n (.close false) (.list :: frames) r
    | '\x7b' :: r => skipFrames n (.close false) (.object :: frames) r
    | c :: r =>
      if c.isDigit then scalar (skipNumber (c :: r)) else faultAt .wantedValue (c :: r)
  | _ + 1, .close _, [], s => .ok ((), s)
  | n + 1, .close comma, frame :: frames, s =>
    let next (s : List Char) : Reading Unit :=
      match enter frame s with
      | .error f => .error f
      | .ok (_, r) => skipFrames n .value (frame :: frames) r
    match skipSpace s with
    | [] => faultBefore frame.endProblem []
    | c :: r =>
      if c = ',' && comma then next r
      else if c = frame.closer then skipFrames n (.close true) frames r
      else if comma then faultAt frame.commaProblem (c :: r)
      else next (c :: r)

def skipValue (s : List Char) : Reading Unit := skipFrames (2 * s.length + 2) .value [] s

end SourceDigest.Json
