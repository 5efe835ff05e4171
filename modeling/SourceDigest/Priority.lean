import SourceDigest.Json.Decode

namespace SourceDigest

open Json (Value Decoding)

structure Priority where
  level : Nat
  one_le : 1 ≤ level
  le_five : level ≤ 5
  deriving DecidableEq, Repr

namespace Priority

def ofNat? (n : Nat) : Option Priority :=
  if h : 1 ≤ n ∧ n ≤ 5 then some ⟨n, h.1, h.2⟩ else none

def highest : Priority := ⟨1, by decide, by decide⟩

def lowest : Priority := ⟨5, by decide, by decide⟩

instance : Inhabited Priority := ⟨lowest⟩

theorem ofNat?_level (p : Priority) : ofNat? p.level = some p := by
  simp [ofNat?, p.one_le, p.le_five]

theorem ofNat?_eq_none_iff {n : Nat} : ofNat? n = none ↔ n = 0 ∨ 5 < n := by
  unfold ofNat?
  split <;> simp <;> omega

def text (p : Priority) : String := "P" ++ toString p.level

def ofJson (v : Value) : Decoding Priority :=
  match v.decodeNat 255 "u8" with
  | .error e => .error e
  | .ok n =>
    match ofNat? n with
    | some p => .ok p
    | none => .error (.rule ("priority level must be in 1..=5, got " ++ toString n))

def toJson (p : Priority) : Value := .ofNat p.level

theorem ofJson_toJson (p : Priority) : ofJson p.toJson = .ok p := by
  have h : p.level ≤ 255 := Nat.le_trans p.le_five (by decide)
  simp [ofJson, toJson, Value.ofNat, Value.decodeNat, h, ofNat?_level]

end Priority

structure FileRecord where
  path : String
  size : UInt64
  priority : Option Priority
  deriving DecidableEq, Repr, Inhabited

namespace FileRecord

def priorityOrLowest (f : FileRecord) : Priority := f.priority.getD .lowest

def record : Json.Record FileRecord :=
  ⟨"FileMetadata", [
    .of "path" true Value.decodeText fun f s => { f with path := s },
    .of "size" true (Value.decodeUInt64 "u64") fun f n => { f with size := n },
    .of "priority" false (Value.decodeOption Priority.ofJson) fun f p => { f with priority := p }]⟩

def ofJson (v : Value) : Decoding FileRecord := record.decode ⟨"", 0, none⟩ v

def toJson (f : FileRecord) : Value :=
  .object ([("path", .string f.path), ("size", .ofNat f.size.toNat)]
    ++ Json.memberIfSome "priority" Priority.toJson f.priority)

end FileRecord

end SourceDigest
