import SourceDigest.Json.Value

namespace SourceDigest

open Json (Value)

inductive Schema where
  | text
  | list (items : Schema)
  | record (name : String) (summary : Option String) (fields : List (String × String × Schema))

namespace Schema

mutual

def accepts : Schema → Value → Bool
  | .text, .string _ => true
  | .list items, .array vs => vs.all (accepts items)
  | .record _ _ fields, .object members => acceptsFields fields members
  | _, _ => false

def acceptsFields : List (String × String × Schema) → List (String × Value) → Bool
  | [], _ => true
  | (name, _, schema) :: fields, members =>
    (match lookupEntry name members with
      | some v => accepts schema v
      | none => false) && acceptsFields fields members

end

def definitions : String := "$defs"

def use : Schema → Value
  | .text => .object [("type", .string "string")]
  | .list items => .object [("items", use items), ("type", .string "array")]
  | .record name _ _ => .object [("$ref", .string ("#/" ++ definitions ++ "/" ++ name))]

def describe (summary : String) : Value → Value
  | .object members => .object (putEntry "description" (.string summary) members)
  | v => v

def body (summary : Option String) (fields : List (String × String × Schema)) :
    List (String × Value) :=
  (summary.map fun s => ("description", Value.string s)).toList
    ++ [("properties", Value.ofMembers (fields.map fun (name, s, schema) =>
        (name, describe s schema.use))),
      ("required", .ofTexts (fields.map Prod.fst)),
      ("type", .string "object")]

mutual

def records : Schema → List (String × Value)
  | .text => []
  | .list items => records items
  | .record name summary fields => (name, .object (body summary fields)) :: recordsBelow fields

def recordsBelow : List (String × String × Schema) → List (String × Value)
  | [] => []
  | (_, _, schema) :: fields => records schema ++ recordsBelow fields

end

def dialect : String := "https:" ++ "//json-schema.org/draft/2020-12/schema"

def document : Schema → Value
  | .record name summary fields =>
    .ofMembers (body summary fields ++ [(definitions, .ofMembers (recordsBelow fields)),
      ("$schema", .string dialect), ("title", .string name)])
  | schema => schema.use

theorem accepts_text_iff {v : Value} : text.accepts v = true ↔ ∃ s, v = .string s := by
  cases v <;> simp [accepts]

theorem accepts_list_iff {items : Schema} {v : Value} :
    (list items).accepts v = true ↔ ∃ vs, v = .array vs ∧ ∀ w ∈ vs, items.accepts w = true := by
  cases v <;> simp [accepts]

theorem acceptsFields_iff {fields : List (String × String × Schema)}
    {members : List (String × Value)} :
    acceptsFields fields members = true ↔
      ∀ f ∈ fields, ∃ v, lookupEntry f.1 members = some v ∧ f.2.2.accepts v = true := by
  induction fields with
  | nil => simp [acceptsFields]
  | cons f fields ih =>
    obtain ⟨name, summary, schema⟩ := f
    simp only [acceptsFields, Bool.and_eq_true, List.forall_mem_cons, ih]
    cases lookupEntry name members <;> simp

end Schema

end SourceDigest
