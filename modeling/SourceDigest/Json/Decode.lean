import SourceDigest.Json.Fault

namespace SourceDigest.Json

abbrev Decoding (α : Type) := Except Mismatch α

namespace Value

def found (v : Value) : Found := Found.ofValue v

def decodeText : Value → Decoding String
  | .string s => .ok s
  | v => .error (.type v.found "a string")

def decodeBool : Value → Decoding Bool
  | .bool b => .ok b
  | v => .error (.type v.found "a boolean")

def decodeNat (limit : Nat) (wanted : String) : Value → Decoding Nat
  | .number (.natural n) =>
    if n ≤ limit then .ok n else .error (.value (.number (.natural n)) wanted)
  | .number (.negative n) => .error (.value (.number (.negative n)) wanted)
  | v => .error (.type v.found wanted)

def decodeUInt32 (wanted : String) (v : Value) : Decoding UInt32 :=
  (v.decodeNat (UInt32.size - 1) wanted).map UInt32.ofNat

def decodeUInt64 (wanted : String) (v : Value) : Decoding UInt64 :=
  (v.decodeNat (UInt64.size - 1) wanted).map UInt64.ofNat

def decodeOption {α : Type} (item : Value → Decoding α) : Value → Decoding (Option α)
  | .null => .ok none
  | v => (item v).map some

def decodeItems {α : Type} (item : Value → Decoding α) : List Value → Decoding (List α)
  | [] => .ok []
  | v :: vs =>
    match item v with
    | .error e => .error e
    | .ok a =>
      match decodeItems item vs with
      | .error e => .error e
      | .ok as => .ok (a :: as)

def decodeList {α : Type} (item : Value → Decoding α) : Value → Decoding (List α)
  | .array vs => decodeItems item vs
  | v => .error (.type v.found "a sequence")

def decodeEntries {α : Type} (item : Value → Decoding α) :
    List (String × Value) → Decoding (List (String × α))
  | [] => .ok []
  | (k, v) :: ms =>
    match item v with
    | .error e => .error e
    | .ok a =>
      match decodeEntries item ms with
      | .error e => .error e
      | .ok as => .ok ((k, a) :: as)

def decodeDict {α : Type} (item : Value → Decoding α) : Value → Decoding (Dict α)
  | .object ms => (decodeEntries item ms).map Dict.ofList
  | v => .error (.type v.found "a map")

def decodeTexts : Value → Decoding (List String) := decodeList decodeText

def ofTextDict (d : Dict String) : Value := .object (d.entries.map fun (k, v) => (k, .string v))

theorem decodeText_string (s : String) : decodeText (.string s) = .ok s := rfl

theorem decodeItems_map {α : Type} {item : Value → Decoding α} {encode : α → Value}
    (h : ∀ a : α, item (encode a) = .ok a) (l : List α) :
    decodeItems item (l.map encode) = .ok l := by
  induction l with
  | nil => rfl
  | cons a l ih => simp [decodeItems, h, ih]

theorem decodeTexts_ofTexts (l : List String) : decodeTexts (ofTexts l) = .ok l :=
  decodeItems_map decodeText_string l

end Value

structure Field (σ : Type) where
  name : String
  required : Bool
  set : Value → σ → Decoding σ

def Field.of {σ α : Type} (name : String) (required : Bool) (item : Value → Decoding α)
    (put : σ → α → σ) : Field σ :=
  ⟨name, required, fun v s => (item v).map (put s)⟩

structure Record (σ : Type) where
  name : String
  fields : List (Field σ)

namespace Record

variable {σ : Type}

def wanted (r : Record σ) : String := "struct " ++ r.name

def wantedLength (r : Record σ) : String :=
  r.wanted ++ " with " ++ toString r.fields.length
    ++ (if r.fields.length = 1 then " element" else " elements")

def field? (r : Record σ) (name : String) : Option (Field σ) :=
  r.fields.find? fun f => f.name == name

def setMembers (r : Record σ) : List (String × Value) → σ → Decoding σ
  | [], s => .ok s
  | (k, v) :: ms, s =>
    match r.field? k with
    | none => setMembers r ms s
    | some f =>
      match f.set v s with
      | .error e => .error e
      | .ok s => setMembers r ms s

def missing? (r : Record σ) (members : List (String × Value)) : Option (Field σ) :=
  r.fields.find? fun f => f.required && (lookupEntry f.name members).isNone

def ofMembers (r : Record σ) (start : σ) (members : List (String × Value)) : Decoding σ :=
  match r.setMembers members start with
  | .error e => .error e
  | .ok s =>
    match r.missing? members with
    | some f => .error (.missing f.name)
    | none => .ok s

def setItems (r : Record σ) : Nat → List (Field σ) → List Value → σ → Decoding σ
  | n, [], rest, s =>
    if rest.isEmpty then .ok s else .error (.length (n + rest.length) "fewer elements in array")
  | n, f :: fs, [], s =>
    if f.required then .error (.length n r.wantedLength) else setItems r (n + 1) fs [] s
  | n, f :: fs, v :: vs, s =>
    match f.set v s with
    | .error e => .error e
    | .ok s => setItems r (n + 1) fs vs s

def decode (r : Record σ) (start : σ) : Value → Decoding σ
  | .object members => r.ofMembers start members
  | .array items => r.setItems 0 r.fields items start
  | v => .error (.type v.found r.wanted)

end Record

def memberIfSome {α : Type} (name : String) (encode : α → Value) : Option α → List (String × Value)
  | none => []
  | some a => [(name, encode a)]

end SourceDigest.Json
