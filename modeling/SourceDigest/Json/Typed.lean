import SourceDigest.Json.Decode
import SourceDigest.Json.Skip

namespace SourceDigest.Json

def mismatchBefore {α : Type} (m : Mismatch) (s : List Char) : Except Fault α :=
  faultBefore (.mismatch m) s

def readOther {α : Type} (wanted : String) (s : List Char) : Except Fault α :=
  let report (found : Found) (r : List Char) : Except Fault α :=
    mismatchBefore (.type found wanted) r
  let number (r : Reading Number) : Except Fault α :=
    match r with
    | .error f => .error f
    | .ok (n, r) => report (.number n) r
  let word (letters : List Char) (found : Found) (r : List Char) : Except Fault α :=
    match readWord letters .null r with
    | .error f => .error f
    | .ok (_, r) => report found r
  match s with
  | 'n' :: r => word ['u', 'l', 'l'] .null r
  | 't' :: r => word ['r', 'u', 'e'] (.bool true) r
  | 'f' :: r => word ['a', 'l', 's', 'e'] (.bool false) r
  | '-' :: r => number (readNumber false r)
  | '"' :: r =>
    match readString r with
    | .error f => .error f
    | .ok (t, r) => report (.string t) r
  | '[' :: _ => report .sequence s
  | '\x7b' :: _ => report .map s
  | c :: _ => if c.isDigit then number (readNumber true s) else faultAt .wantedValue s
  | [] => faultBefore .endInValue []

def readText (s : List Char) : Reading String :=
  match skipSpace s with
  | [] => faultBefore .endInValue []
  | '"' :: r => readString r
  | r => readOther "a string" r

def readOption {α : Type} (item : List Char → Reading α) (s : List Char) : Reading (Option α) :=
  match skipSpace s with
  | 'n' :: r => (readWord ['u', 'l', 'l'] .null r).map fun (_, r) => (none, r)
  | r => (item r).map fun (a, r) => (some a, r)

def readDict {α : Type} (item : List Char → Reading α) (s : List Char) : Reading (Dict α) :=
  match skipSpace s with
  | [] => faultBefore .endInValue []
  | '\x7b' :: r =>
    (readParts (nextMember item) (r.length + 1) true r).map fun (l, r) => (Dict.ofList l, r)
  | r => readOther "a map" r

def readList {α : Type} (item : List Char → Reading α) (s : List Char) : Reading (List α) :=
  match skipSpace s with
  | [] => faultBefore .endInValue []
  | '[' :: r => readParts (nextElement item) (r.length + 1) true r
  | r => readOther "a sequence" r

structure TextField (σ : Type) where
  name : String
  required : Bool
  read : List Char → σ → Reading σ

def TextField.of {σ α : Type} (name : String) (required : Bool) (item : List Char → Reading α)
    (put : σ → α → σ) : TextField σ :=
  ⟨name, required, fun s r => (item s).map fun (a, s) => (put r a, s)⟩

structure TextRecord (σ : Type) where
  name : String
  fields : List (TextField σ)

namespace TextRecord

variable {σ : Type}

def leave (s : List Char) : List Char :=
  match skipSpace s with
  | '\x7d' :: r => r
  | r => r

def readMember (t : TextRecord σ) (seen : List String) (key : String) (s : List Char) (a : σ) :
    Reading (List String × σ) :=
  match t.fields.find? fun f => f.name == key with
  | none =>
    match readColon s with
    | .error f => .error f
    | .ok (_, r) => (skipValue r).map fun (_, r) => ((seen, a), r)
  | some field =>
    if seen.contains key then mismatchBefore (.duplicate key) (leave s)
    else
      match readColon s with
      | .error f => .error f
      | .ok (_, r) => (field.read r a).map fun (a, r) => ((key :: seen, a), r)

def missing? (t : TextRecord σ) (seen : List String) : Option (TextField σ) :=
  t.fields.find? fun f => f.required && !seen.contains f.name

def readMembers (t : TextRecord σ) : Nat → Bool → List String → List Char → σ → Reading σ
  | 0, _, _, s, _ => faultBefore .endInObject s
  | n + 1, first, seen, s, a =>
    match nextKey first s with
    | .error f => .error f
    | .ok (none, r) =>
      match t.missing? seen with
      | some f => mismatchBefore (.missing f.name) (r.drop 1)
      | none => .ok (a, r.drop 1)
    | .ok (some key, r) =>
      match t.readMember seen key r a with
      | .error f => .error f
      | .ok ((seen, a), r) => readMembers t n false seen r a

def readClose (s : List Char) : Reading Unit :=
  match skipSpace s with
  | [] => faultBefore .endInList []
  | ']' :: r => .ok ((), r)
  | ',' :: r =>
    match skipSpace r with
    | ']' :: t => faultAt .trailingComma (']' :: t)
    | t => faultAt .trailingCharacters t
  | r => faultAt .trailingCharacters r

def wantedLength (t : TextRecord σ) : String :=
  "struct " ++ t.name ++ " with " ++ toString t.fields.length
    ++ (if t.fields.length = 1 then " element" else " elements")

def readItems (t : TextRecord σ) : Nat → List (TextField σ) → List Char → σ → Reading σ
  | _, [], s, a => (readClose s).map fun (_, r) => (a, r)
  | n, field :: fields, s, a =>
    match nextElement (fun s => field.read s a) (n == 0) s with
    | .error f => .error f
    | .ok (none, r) =>
      if (field :: fields).any (·.required) then mismatchBefore (.length n t.wantedLength) r
      else .ok (a, r)
    | .ok (some a, r) => t.readItems (n + 1) fields r a

def read (t : TextRecord σ) (start : σ) (s : List Char) : Reading σ :=
  match skipSpace s with
  | [] => faultBefore .endInValue []
  | '[' :: r => t.readItems 0 t.fields r start
  | '\x7b' :: r => t.readMembers (r.length + 1) true [] r start
  | r => readOther ("struct " ++ t.name) r

def parse (t : TextRecord σ) (start : σ) (text : List Char) : Except Fault σ :=
  match t.read start text with
  | .error f => .error f
  | .ok (a, r) => (readEnd r).map fun _ => a

end TextRecord

end SourceDigest.Json
