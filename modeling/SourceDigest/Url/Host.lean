import SourceDigest.Decimal.Unsigned
import SourceDigest.Domain
import SourceDigest.Url.Escape

namespace SourceDigest.Url

open Text (splitOn cutAt hexValue?)

inductive Host where
  | name (s : String)
  | ipv4 (address : UInt32)
  | ipv6 (pieces : List UInt16)
  deriving DecidableEq, Repr

def hostNumber? (s : List Char) : Option Nat :=
  let digits (base : Nat) (s : List Char) : Option Nat :=
    s.foldl (fun acc c =>
      match hexValue? c with
      | some d => if d < base then acc.map (· * base + d) else none
      | none => none) (some 0)
  match s with
  | [] => none
  | '0' :: 'x' :: r => digits 16 r
  | '0' :: r => digits 8 r
  | s => digits 10 s

def dottedQuad (address : UInt32) : String :=
  let n := address.toNat
  ".".intercalate ([n >>> 24, (n >>> 16) % 256, (n >>> 8) % 256, n % 256].map toString)

def quadOf? : Nat → List Nat → Option Nat
  | _, [] => none
  | bytes, [last] => if last < 1 <<< (8 * bytes) then some last else none
  | bytes, n :: rest =>
    if bytes ≤ 1 || 255 < n then none
    else (quadOf? (bytes - 1) rest).map (n <<< (8 * (bytes - 1)) + ·)

def nameParts (s : List Char) : List (List Char) :=
  let parts := splitOn '.' s
  if parts.getLast? = some [] && 1 < parts.length then parts.dropLast else parts

def endsInNumber (s : List Char) : Bool :=
  match (nameParts s).getLast? with
  | none | some [] => false
  | some last => last.all Char.isDigit || (hostNumber? last).isSome

def ipv4? (s : List Char) : Option Host :=
  match (nameParts s).mapM hostNumber? with
  | some ns => (quadOf? 4 ns).map fun n => .ipv4 (UInt32.ofNat n)
  | none => none

def piece? (s : List Char) : Option UInt16 :=
  if s.isEmpty || 4 < s.length then none
  else
    (s.foldl (fun acc c =>
      match acc, hexValue? c with
      | some n, some d => some (n * 16 + d)
      | _, _ => none) (some 0)).map UInt16.ofNat

def byte? (s : List Char) : Option Nat :=
  match s with
  | [] => none
  | '0' :: _ :: _ => none
  | s => (Decimal.readDigits 255 0 s).toOption

def quadPieces? (s : List Char) : Option (List UInt16) :=
  match (splitOn '.' s).mapM byte? with
  | some [a, b, c, d] => some [UInt16.ofNat (a * 256 + b), UInt16.ofNat (c * 256 + d)]
  | _ => none

def pieces? (atEnd : Bool) : List (List Char) → Option (List UInt16)
  | [] => some []
  | [last] =>
    if atEnd && last.contains '.' then quadPieces? last else (piece? last).map fun p => [p]
  | s :: rest =>
    match piece? s, pieces? atEnd rest with
    | some p, some ps => some (p :: ps)
    | _, _ => none

def piecesOf? (atEnd : Bool) (s : List Char) : Option (List UInt16) :=
  pieces? atEnd (if s.isEmpty then [] else splitOn ':' s)

def ipv6? (s : List Char) : Option Host :=
  match cutAt [':', ':'] s with
  | none =>
    match piecesOf? true s with
    | some ps => if ps.length = 8 then some (.ipv6 ps) else none
    | none => none
  | some (before, after) =>
    match piecesOf? false before, piecesOf? true after with
    | some ps, some qs =>
      let given := ps.length + qs.length
      if given < 8 then some (.ipv6 (ps ++ List.replicate (8 - given) 0 ++ qs)) else none
    | _, _ => none

def longestZeros (pieces : List UInt16) : Nat × Nat :=
  (List.range pieces.length).foldl (fun best i =>
    let n := ((pieces.drop i).takeWhile (· == 0)).length
    if best.2 < n then (i, n) else best) (0, 0)

def piecesText (pieces : List UInt16) : String :=
  ":".intercalate (pieces.map fun p => String.ofList (Nat.toDigits 16 p.toNat))

namespace Host

def plain : Host → String
  | name s => s
  | ipv4 address => dottedQuad address
  | ipv6 pieces =>
    match longestZeros pieces with
    | (start, n) =>
      if n < 2 then piecesText pieces
      else piecesText (pieces.take start) ++ "::" ++ piecesText (pieces.drop (start + n))

def text (h : Host) : String :=
  match h with
  | ipv6 _ => "[" ++ h.plain ++ "]"
  | _ => h.plain

def bracketed? (s : List Char) : Option Host :=
  if s.getLast? = some ']' then ipv6? (s.drop 1).dropLast else none

def ofDomain? (s : List Char) : Option Host :=
  if s.head? = some '[' then bracketed? s
  else
    match Domain.toAscii? (Text.Utf8.decodeLossy (unescape s)).toList with
    | none | some [] => none
    | some d => if endsInNumber d then ipv4? d else some (.name (String.ofList d))

def refused : List Char :=
  [Char.ofNat 0, '\t', '\n', '\r', ' ', '#', '/', ':', '<', '>', '?', '@', '[', '\\', ']', '^', '|']

def ofText? (s : List Char) : Option Host :=
  if s.head? = some '[' then bracketed? s
  else if s.any refused.contains then none
  else some (.name (String.ofList (escape [] s)))

def isEmpty (h : Host) : Bool := h == .name ""

end Host

theorem ipv6?_pieces {s : List Char} {h : Host} (hs : ipv6? s = some h) :
    ∃ ps : List UInt16, h = .ipv6 ps ∧ ps.length = 8 := by
  unfold ipv6? at hs
  split at hs
  · split at hs
    · split at hs
      · rename_i ps _ hl
        exact ⟨ps, (Option.some.inj hs).symm, hl⟩
      · cases hs
    · cases hs
  · split at hs
    · rename_i ps qs _ _
      simp only [Option.ite_none_right_eq_some, Option.some.injEq] at hs
      refine ⟨_, hs.2.symm, ?_⟩
      have := hs.1
      simp only [List.length_append, List.length_replicate]
      omega
    · cases hs

end SourceDigest.Url
