import SourceDigest.Text.Hex

namespace SourceDigest.Toml

open SourceDigest.Text (hexValue?)

def apostrophe : Char := Char.ofNat 0x27

def isTextChar (c : Char) : Bool := c == '\t' || (0x20 ≤ c.toNat && c.toNat != 0x7f)

def isGap (c : Char) : Bool := c == ' ' || c == '\t'

def skipGap (s : List Char) : List Char := s.dropWhile isGap

def lineBreak? : List Char → Option (List Char)
  | '\n' :: r => some r
  | '\r' :: '\n' :: r => some r
  | _ => none

def readHex : Nat → Nat → List Char → Option (Nat × List Char)
  | 0, acc, s => some (acc, s)
  | n + 1, acc, c :: s =>
    match hexValue? c with
    | some d => readHex n (acc * 16 + d) s
    | none => none
  | _ + 1, _, [] => none

def readScalar (digits : Nat) (s : List Char) : Option (Char × List Char) :=
  match readHex digits 0 s with
  | some (n, r) => if n.isValidChar then some (Char.ofNat n, r) else none
  | none => none

def readEscape : List Char → Option (Char × List Char)
  | 'b' :: r => some (Char.ofNat 8, r)
  | 't' :: r => some ('\t', r)
  | 'n' :: r => some ('\n', r)
  | 'f' :: r => some (Char.ofNat 12, r)
  | 'r' :: r => some ('\r', r)
  | '"' :: r => some ('"', r)
  | '\\' :: r => some ('\\', r)
  | 'u' :: r => readScalar 4 r
  | 'U' :: r => readScalar 8 r
  | _ => none

structure Piece where
  text : List Char
  ends : Bool
  rest : List Char

def readPieces (piece : List Char → Option Piece) : Nat → List Char → Option (String × List Char)
  | 0, _ => none
  | n + 1, s =>
    match piece s with
    | none => none
    | some p =>
      if p.ends then some (String.ofList p.text, p.rest)
      else
        (readPieces piece n p.rest).map fun (t, r) => (String.ofList p.text ++ t, r)

def plainPiece : List Char → Option Piece
  | c :: r => if isTextChar c then some ⟨[c], false, r⟩ else none
  | [] => none

def basicPiece : List Char → Option Piece
  | '"' :: r => some ⟨[], true, r⟩
  | '\\' :: r => (readEscape r).map fun (c, r) => ⟨[c], false, r⟩
  | s => plainPiece s

def literalPiece : List Char → Option Piece
  | c :: r => if c = apostrophe then some ⟨[], true, r⟩ else plainPiece (c :: r)
  | [] => none

def quotesPiece (quote : Char) (s : List Char) : Piece :=
  let n := (s.takeWhile (· == quote)).length
  if n < 3 then ⟨List.replicate n quote, false, s.drop n⟩
  else ⟨List.replicate (min (n - 3) 2) quote, true, s.drop (min n 5)⟩

def linesPiece (s : List Char) : Option Piece :=
  match lineBreak? s with
  | some r => some ⟨['\n'], false, r⟩
  | none => plainPiece s

def joinedLine? (s : List Char) : Option (List Char) :=
  match lineBreak? (skipGap s) with
  | some r =>
    let isBlankOrBreak (c : Char) : Bool := isGap c || c == '\n' || c == '\r'
    let blank := r.takeWhile isBlankOrBreak
    let alone := blank.zip (blank.drop 1 ++ [' ']) |>.any fun (a, b) => a == '\r' && b != '\n'
    if alone then none else some (r.dropWhile isBlankOrBreak)
  | none => none

def basicLinesPiece (s : List Char) : Option Piece :=
  match s with
  | '"' :: _ => some (quotesPiece '"' s)
  | '\\' :: r =>
    match joinedLine? r with
    | some r => some ⟨[], false, r⟩
    | none => (readEscape r).map fun (c, r) => ⟨[c], false, r⟩
  | s => linesPiece s

def literalLinesPiece (s : List Char) : Option Piece :=
  if s.head? = some apostrophe then some (quotesPiece apostrophe s) else linesPiece s

def readBasic (s : List Char) : Option (String × List Char) :=
  readPieces basicPiece (s.length + 1) s

def readLiteral (s : List Char) : Option (String × List Char) :=
  readPieces literalPiece (s.length + 1) s

def readLines (piece : List Char → Option Piece) (s : List Char) : Option (String × List Char) :=
  readPieces piece (s.length + 1) ((lineBreak? s).getD s)

def readString (s : List Char) : Option (String × List Char) :=
  if s.take 3 = ['"', '"', '"'] then readLines basicLinesPiece (s.drop 3)
  else if s.take 3 = [apostrophe, apostrophe, apostrophe] then readLines literalLinesPiece (s.drop 3)
  else
    match s with
    | [] => none
    | c :: r => if c = '"' then readBasic r else if c = apostrophe then readLiteral r else none

end SourceDigest.Toml
