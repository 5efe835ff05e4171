import SourceDigest.Toml.Number
import SourceDigest.Toml.Table
import SourceDigest.Toml.Text

namespace SourceDigest.Toml

def isBareKeyChar (c : Char) : Bool := c.isAlphanum || c == '_' || c == '-'

def readName (s : List Char) : Option (String × List Char) :=
  match s with
  | [] => none
  | c :: r =>
    if c = '"' then readBasic r
    else if c = apostrophe then readLiteral r
    else
      match s.takeWhile isBareKeyChar with
      | [] => none
      | name => some (String.ofList name, s.dropWhile isBareKeyChar)

structure Key where
  path : List String
  last : String
  deriving DecidableEq, Repr

def readNames : Nat → List Char → Option (Key × List Char)
  | 0, _ => none
  | n + 1, s =>
    match readName (skipGap s) with
    | none => none
    | some (name, r) =>
      match skipGap r with
      | '.' :: r => (readNames n r).map fun (k, r) => (⟨name :: k.path, k.last⟩, r)
      | r => some (⟨[], name⟩, r)

def maxNames : Nat := 79

def readKey (s : List Char) : Option (Key × List Char) := readNames maxNames s

def skipComment (s : List Char) : Option (List Char) :=
  match s.dropWhile isTextChar with
  | [] => some []
  | r => if (lineBreak? r).isSome then some r else none

def skipLines : Nat → List Char → Option (List Char)
  | 0, _ => none
  | n + 1, s =>
    match skipGap s with
    | '#' :: r => (skipComment r).bind (skipLines n)
    | r =>
      match lineBreak? r with
      | some r => skipLines n r
      | none => some r

def skipSpace (s : List Char) : Option (List Char) := skipLines (s.length + 1) s

def readItems (item : List Char → Option (Value × List Char)) :
    Nat → List Char → Option (List Value × List Char)
  | 0, _ => none
  | n + 1, s =>
    match skipSpace s with
    | none => none
    | some (']' :: r) => some ([], r)
    | some r =>
      match item r with
      | none => none
      | some (v, r) =>
        match skipSpace r with
        | some (',' :: r) => (readItems item n r).map fun (vs, r) => (v :: vs, r)
        | some (']' :: r) => some ([v], r)
        | _ => none

def readPair (item : List Char → Option (Value × List Char)) (s : List Char) :
    Option (Key × Value × List Char) :=
  match readKey s with
  | some (key, '=' :: r) => (item (skipGap r)).map fun (v, r) => (key, v, r)
  | _ => none

def readPairs (item : List Char → Option (Value × List Char)) :
    Nat → Entries → List Char → Option (Entries × List Char)
  | 0, _, _ => none
  | n + 1, entries, s =>
    match readPair item s with
    | none => none
    | some (key, v, r) =>
      match assign key.path key.last v .inline entries with
      | none => none
      | some entries =>
        match skipGap r with
        | ',' :: r => readPairs item n entries r
        | '\x7d' :: r => some (entries, r)
        | _ => none

def isWordChar (c : Char) : Bool := c.isAlphanum || c == '_' || c == '+' || c == '-' || c == '.' || c == ':'

def readPlain (s : List Char) : Option (Value × List Char) :=
  match s with
  | [] => none
  | c :: _ =>
    if c = '"' || c = apostrophe then (readString s).map fun (t, r) => (.string t, r)
    else
      match readMoment s with
      | some (m, r) => some (.moment m, r)
      | none =>
        let word := s.takeWhile isWordChar
        let rest := s.dropWhile isWordChar
        if word = "true".toList then some (.boolean true, rest)
        else if word = "false".toList then some (.boolean false, rest)
        else (number? word).map fun v => (v, rest)

def readValue : Nat → List Char → Option (Value × List Char)
  | depth + 1, '[' :: r =>
    (readItems (readValue depth) (r.length + 1) r).map fun (vs, r) => (.array vs, r)
  | depth + 1, '\x7b' :: r =>
    match skipGap r with
    | '\x7d' :: r => some (.table .inline [], r)
    | r =>
      (readPairs (readValue depth) (r.length + 1) [] r).map fun (es, r) => (.table .inline es, r)
  | _, s => readPlain s

def maxDepth : Nat := 79

def readLineEnd (s : List Char) : Option (List Char) :=
  let ended (s : List Char) : Option (List Char) := if s.isEmpty then some [] else lineBreak? s
  match skipGap s with
  | '#' :: r => (skipComment r).bind ended
  | r => ended r

def readDocument : Nat → List String → Entries → List Char → Option Entries
  | 0, _, _, _ => none
  | n + 1, header, root, s =>
    match skipSpace s with
    | none => none
    | some [] => some root
    | some ('[' :: '[' :: r) =>
      match readKey r with
      | some (key, ']' :: ']' :: r) =>
        match readLineEnd r, openRow key.path key.last root with
        | some r, some root => readDocument n (key.path ++ [key.last]) root r
        | _, _ => none
      | _ => none
    | some ('[' :: r) =>
      match readKey r with
      | some (key, ']' :: r) =>
        match readLineEnd r, openTable key.path key.last root with
        | some r, some root => readDocument n (key.path ++ [key.last]) root r
        | _, _ => none
      | _ => none
    | some r =>
      match readPair (readValue maxDepth) r with
      | some (key, v, r) =>
        match readLineEnd r, assignUnder header key.path key.last v root with
        | some r, some root => readDocument n header root r
        | _, _ => none
      | none => none

def byteOrderMark : Char := Char.ofNat 0xfeff

def parse (text : String) : Option Entries :=
  let s := text.toList
  let s := if s.head? = some byteOrderMark then s.tail else s
  readDocument (s.length + 1) [] [] s

end SourceDigest.Toml
