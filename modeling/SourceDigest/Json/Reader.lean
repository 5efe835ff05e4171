import SourceDigest.Json.Number
import SourceDigest.Text.Hex

namespace SourceDigest.Json

open Text (hexValue?)

def isSpace (c : Char) : Bool := c == ' ' || c == '\n' || c == '\t' || c == '\r'

def skipSpace (s : List Char) : List Char := s.dropWhile isSpace

theorem skipSpace_suffix (s : List Char) : skipSpace s <:+ s := List.dropWhile_suffix _

theorem skipSpace_append {b : List Char} (hb : ∀ c ∈ b, isSpace c = true) (s : List Char) :
    skipSpace (b ++ s) = skipSpace s :=
  List.dropWhile_append_of_pos hb

def readParts {α : Type} (step : Bool → List Char → Reading (Option α)) :
    Nat → Bool → List Char → Reading (List α)
  | 0, _, s => faultBefore .endInValue s
  | n + 1, first, s =>
    match step first s with
    | .error f => .error f
    | .ok (none, r) => .ok ([], r)
    | .ok (some a, r) =>
      match readParts step n false r with
      | .error f => .error f
      | .ok (as, r) => .ok (a :: as, r)

def readWord (word : List Char) (v : Value) : List Char → Reading Value :=
  match word with
  | [] => fun s => .ok (v, s)
  | c :: word => fun s =>
    match s with
    | [] => faultBefore .endInValue []
    | d :: r => if d = c then readWord word v r else faultAt .wantedIdent s

def hexFour? : List Char → Option (Nat × List Char)
  | a :: b :: c :: d :: r => do
    let a ← hexValue? a
    let b ← hexValue? b
    let c ← hexValue? c
    let d ← hexValue? d
    pure (((a * 16 + b) * 16 + c) * 16 + d, r)
  | _ => none

def readHexFour (s : List Char) : Reading Nat :=
  match hexFour? s with
  | some r => .ok r
  | none => if byteLength s < 4 then faultBefore .endInString [] else .error ⟨.badEscape, s, 4⟩

def isHighSurrogate (n : Nat) : Bool := 0xd800 ≤ n && n < 0xdc00

def isLowSurrogate (n : Nat) : Bool := 0xdc00 ≤ n && n < 0xe000

def joinSurrogates (high low : Nat) : Char :=
  Char.ofNat ((high - 0xd800) * 0x400 + (low - 0xdc00) + 0x10000)

def readLowSurrogate (high : Nat) (s : List Char) : Reading Char :=
  match s with
  | [] => faultBefore .endInString []
  | '\\' :: [] => faultBefore .endInString []
  | '\\' :: 'u' :: r =>
    match readHexFour r with
    | .error f => .error f
    | .ok (low, r) =>
      if isLowSurrogate low then .ok (joinSurrogates high low, r) else faultBefore .loneSurrogate r
  | '\\' :: r => faultAt .hexEscapeEnd r
  | _ => faultAt .hexEscapeEnd s

def readUnicode (s : List Char) : Reading Char :=
  match readHexFour s with
  | .error f => .error f
  | .ok (n, r) =>
    if isLowSurrogate n then faultBefore .loneSurrogate r
    else if isHighSurrogate n then readLowSurrogate n r
    else .ok (Char.ofNat n, r)

def readEscape (s : List Char) : Reading Char :=
  match s with
  | [] => faultBefore .endInString []
  | '"' :: r => .ok ('"', r)
  | '\\' :: r => .ok ('\\', r)
  | '/' :: r => .ok ('/', r)
  | 'b' :: r => .ok ('\x08', r)
  | 'f' :: r => .ok ('\x0c', r)
  | 'n' :: r => .ok ('\n', r)
  | 'r' :: r => .ok ('\r', r)
  | 't' :: r => .ok ('\t', r)
  | 'u' :: r => readUnicode r
  | _ => faultAt .badEscape s

def nextChar (_ : Bool) (s : List Char) : Reading (Option Char) :=
  match s with
  | [] => faultBefore .endInString []
  | '"' :: r => .ok (none, r)
  | '\\' :: r => (readEscape r).map fun (c, r) => (some c, r)
  | c :: r => if c.toNat < 0x20 then faultAt .controlCharacter s else .ok (some c, r)

def readString (s : List Char) : Reading String :=
  (readParts nextChar (s.length + 1) true s).map fun (cs, r) => (String.ofList cs, r)

def nextElement {α : Type} (item : List Char → Reading α) (first : Bool) (s : List Char) :
    Reading (Option α) :=
  let element (s : List Char) : Reading (Option α) := (item s).map fun (v, r) => (some v, r)
  match skipSpace s with
  | [] => faultBefore .endInList []
  | ']' :: r => .ok (none, r)
  | c :: r =>
    if first then element (c :: r)
    else if c = ',' then
      match skipSpace r with
      | [] => faultBefore .endInValue []
      | ']' :: t => faultAt .trailingComma (']' :: t)
      | t => element t
    else faultAt .wantedListCommaOrEnd (c :: r)

def readColon (s : List Char) : Reading Unit :=
  match skipSpace s with
  | [] => faultBefore .endInObject []
  | ':' :: r => .ok ((), r)
  | r => faultAt .wantedColon r

def nextKey (first : Bool) (s : List Char) : Reading (Option String) :=
  let key (s : List Char) : Reading (Option String) := (readString s).map fun (k, r) => (some k, r)
  match skipSpace s with
  | [] => faultBefore .endInObject []
  | '\x7d' :: r => .ok (none, '\x7d' :: r)
  | c :: r =>
    if first then if c = '"' then key r else faultAt .keyNotString (c :: r)
    else if c = ',' then
      match skipSpace r with
      | [] => faultBefore .endInValue []
      | '"' :: t => key t
      | '\x7d' :: t => faultAt .trailingComma ('\x7d' :: t)
      | t => faultAt .keyNotString t
    else faultAt .wantedObjectCommaOrEnd (c :: r)

def nextMember {α : Type} (item : List Char → Reading α) (first : Bool) (s : List Char) :
    Reading (Option (String × α)) :=
  match nextKey first s with
  | .error f => .error f
  | .ok (none, r) => .ok (none, r.drop 1)
  | .ok (some k, r) =>
    match readColon r with
    | .error f => .error f
    | .ok (_, r) => (item r).map fun (v, r) => (some (k, v), r)

def readValue : Nat → List Char → Reading Value
  | depth, s =>
    match skipSpace s with
    | [] => faultBefore .endInValue []
    | 'n' :: r => readWord ['u', 'l', 'l'] .null r
    | 't' :: r => readWord ['r', 'u', 'e'] (.bool true) r
    | 'f' :: r => readWord ['a', 'l', 's', 'e'] (.bool false) r
    | '"' :: r => (readString r).map fun (s, r) => (.string s, r)
    | '[' :: r =>
      match depth with
      | 0 => faultAt .depth ('[' :: r)
      | depth + 1 =>
        (readParts (nextElement (readValue depth)) (r.length + 1) true r).map
          fun (items, r) => (.array items, r)
    | '\x7b' :: r =>
      match depth with
      | 0 => faultAt .depth ('\x7b' :: r)
      | depth + 1 =>
        (readParts (nextMember (readValue depth)) (r.length + 1) true r).map
          fun (members, r) => (Value.ofMembers members, r)
    | '-' :: r => (readNumber false r).map fun (n, r) => (.number n, r)
    | c :: r =>
      if c.isDigit then (readNumber true (c :: r)).map fun (n, r) => (.number n, r)
      else faultAt .wantedValue (c :: r)

theorem readValue_append {b : List Char} (hb : ∀ c ∈ b, isSpace c = true) (d : Nat) (s : List Char) :
    readValue d (b ++ s) = readValue d s := by
  rw [readValue, readValue, skipSpace_append hb]

def depthLimit : Nat := 127

def readEnd (s : List Char) : Except Fault Unit :=
  match skipSpace s with
  | [] => .ok ()
  | r => faultAt .trailingCharacters r

def parse (text : List Char) : Except Fault Value :=
  match readValue depthLimit text with
  | .error f => .error f
  | .ok (v, r) => (readEnd r).map fun _ => v

end SourceDigest.Json
