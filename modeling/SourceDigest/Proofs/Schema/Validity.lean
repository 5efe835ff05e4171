import Mathlib.Data.List.Nodup
import SourceDigest.Proofs.Json.Decoding
import SourceDigest.Schema
import SourceDigest.Text.Split

namespace SourceDigest

section Entries

variable {α β : Type}

theorem lookupEntry_eq_some_iff {l : List (String × α)} (h : (l.map Prod.fst).Nodup) {k : String}
    {a : α} : lookupEntry k l = some a ↔ (k, a) ∈ l := by
  refine ⟨mem_of_lookupEntry, fun hmem => ?_⟩
  obtain ⟨b, hb⟩ := exists_lookupEntry_of_mem hmem
  have heq := List.inj_on_of_nodup_map h (mem_of_lookupEntry hb) hmem rfl
  rw [hb, (Prod.mk.inj heq).2]

theorem lookupEntry_perm {l l' : List (String × α)} (h : (l.map Prod.fst).Nodup) (hperm : l.Perm l')
    (k : String) : lookupEntry k l = lookupEntry k l' := by
  refine Option.ext fun a => ?_
  rw [lookupEntry_eq_some_iff h, lookupEntry_eq_some_iff ((hperm.map _).nodup_iff.1 h),
    hperm.mem_iff]

theorem lookupEntry_append_of_not_mem {k : String} {l' : List (String × α)}
    (h : k ∉ l'.map Prod.fst) (l : List (String × α)) :
    lookupEntry k (l ++ l') = lookupEntry k l := by
  induction l with
  | nil => exact Option.isNone_iff_eq_none.1 (lookupEntry_isNone_iff.2 h)
  | cons e l ih => simp only [List.cons_append, lookupEntry, ih]

end Entries

namespace Json.Value

def typeName : Value → String
  | .null => "null"
  | .bool _ => "boolean"
  | .number _ => "number"
  | .string _ => "string"
  | .array _ => "array"
  | .object _ => "object"

def resolve? (document : Value) (reference : String) : Option Value :=
  match Text.splitOn '/' reference.toList with
  | ['#'] :: steps => steps.foldlM (fun v step => v.get? (String.ofList step)) document
  | _ => none

def keywords : List String := ["type", "properties", "required", "items", "$ref"]

inductive Valid (document : Value) : Value → Value → Prop
  | intro {schema v : Value}
    (type : ∀ t, schema.get? "type" = some (.string t) → v.typeName = t)
    (properties : ∀ ps, schema.get? "properties" = some (.object ps) →
      ∀ k s w, lookupEntry k ps = some s → v.get? k = some w → Valid document s w)
    (required : ∀ ks, schema.get? "required" = some (.array ks) →
      ∀ k, .string k ∈ ks → ∀ ms, v = .object ms → ∃ w, lookupEntry k ms = some w)
    (items : ∀ s, schema.get? "items" = some s → ∀ vs w, v = .array vs → w ∈ vs →
      Valid document s w)
    (found : ∀ r, schema.get? "$ref" = some (.string r) → ∃ s, document.resolve? r = some s)
    (referred : ∀ r s, schema.get? "$ref" = some (.string r) → document.resolve? r = some s →
      Valid document s v) :
    Valid document schema v

variable {document schema schema' v : Value}

theorem Valid.congr (h : Valid document schema v)
    (hwords : ∀ k ∈ keywords, schema'.get? k = schema.get? k) : Valid document schema' v := by
  cases h with
  | intro type properties required items found referred =>
    refine .intro ?type ?properties ?required ?items ?found ?referred
    all_goals rwa [hwords _ (by simp [keywords])]

end Json.Value

namespace Schema

open Json (Value)
open Json.Value (Valid keywords typeName)

variable {document v s' : Value} {s items : Schema} {name : String} {summary : Option String}
  {fields : List (String × String × Schema)}

def reference (name : String) : String := "#/" ++ definitions ++ "/" ++ name

inductive Defined (document : Value) : Schema → Prop
  | text : Defined document .text
  | list {items : Schema} (each : Defined document items) : Defined document (.list items)
  | record {name : String} {summary : Option String} {fields : List (String × String × Schema)}
    (defined : document.resolve? (reference name) = some (.object (body summary fields)))
    (distinct : (fields.map Prod.fst).Nodup) (each : ∀ f ∈ fields, Defined document f.2.2) :
    Defined document (.record name summary fields)

theorem typeName_eq_string_iff : v.typeName = "string" ↔ ∃ t, v = .string t := by
  cases v <;> simp [typeName]

theorem typeName_eq_array_iff : v.typeName = "array" ↔ ∃ vs, v = .array vs := by
  cases v <;> simp [typeName]

theorem typeName_eq_object_iff : v.typeName = "object" ↔ ∃ ms, v = .object ms := by
  cases v <;> simp [typeName]

theorem valid_text_iff : Valid document text.use v ↔ text.accepts v = true := by
  rw [accepts_text_iff, ← typeName_eq_string_iff]
  constructor
  · rintro ⟨type, -, -, -, -, -⟩
    exact type "string" rfl
  · intro h
    refine .intro ?_ ?_ ?_ ?_ ?_ ?_ <;> simp [use, Value.get?, lookupEntry, h]

theorem valid_list_iff (h : ∀ w, Valid document items.use w ↔ items.accepts w = true) :
    Valid document (list items).use v ↔ (list items).accepts v = true := by
  rw [accepts_list_iff]
  constructor
  · rintro ⟨type, -, -, each, -, -⟩
    obtain ⟨vs, rfl⟩ := typeName_eq_array_iff.1 (type "array" rfl)
    exact ⟨vs, rfl, fun w hw => (h w).1 (each items.use rfl vs w rfl hw)⟩
  · rintro ⟨vs, rfl, hvs⟩
    refine .intro ?type ?properties ?required ?items ?found ?referred
    case items =>
      intro u hu _ w harray hw
      cases harray
      obtain rfl : items.use = u := Option.some.inj hu
      exact (h w).2 (hvs w hw)
    all_goals simp [use, Value.get?, lookupEntry, typeName]

def properties (fields : List (String × String × Schema)) : List (String × Value) :=
  putEntries (fields.map fun f => (f.1, describe f.2.1 f.2.2.use))

theorem lookupEntry_properties (distinct : (fields.map Prod.fst).Nodup) {k : String} {u : Value} :
    lookupEntry k (properties fields) = some u ↔
      ∃ f ∈ fields, f.1 = k ∧ describe f.2.1 f.2.2.use = u := by
  have hkeys : ((fields.map fun f => (f.1, describe f.2.1 f.2.2.use)).map Prod.fst).Nodup := by
    rwa [List.map_map]
  have hperm := perm_putEntries hkeys
  rw [properties, lookupEntry_eq_some_iff ((hperm.map _).nodup_iff.2 hkeys), hperm.mem_iff,
    List.mem_map]
  simp only [Prod.mk.injEq]

theorem keywords_body (summary : Option String) (fields : List (String × String × Schema)) :
    let schema := Value.object (body summary fields)
    schema.get? "type" = some (.string "object") ∧
      schema.get? "properties" = some (.object (properties fields)) ∧
      schema.get? "required" = some (.array (fields.map fun f => .string f.1)) ∧
      schema.get? "items" = none ∧ schema.get? "$ref" = none := by
  cases summary <;>
    simp [body, Value.get?, lookupEntry, properties, Value.ofMembers, Value.ofTexts, putEntries]

theorem valid_describe_iff {summary : String} :
    Valid document (describe summary s.use) v ↔ Valid document s.use v := by
  have hwords : ∀ k ∈ keywords, (describe summary s.use).get? k = s.use.get? k := by
    intro k hk
    have hne : "description" ≠ k := by
      rintro rfl
      exact absurd hk (by decide)
    cases s <;> simp only [use, describe, Value.get?, lookupEntry_putEntry, if_neg hne]
  exact ⟨fun h => h.congr fun k hk => (hwords k hk).symm, fun h => h.congr hwords⟩

theorem valid_body_iff (distinct : (fields.map Prod.fst).Nodup)
    (h : ∀ f ∈ fields, ∀ w, Valid document f.2.2.use w ↔ f.2.2.accepts w = true) :
    Valid document (.object (body summary fields)) v ↔
      (record name summary fields).accepts v = true := by
  obtain ⟨htype, hproperties, hrequired, hitems, href⟩ := keywords_body summary fields
  constructor
  · rintro ⟨type, properties, required, -, -, -⟩
    obtain ⟨ms, rfl⟩ := typeName_eq_object_iff.1 (type "object" htype)
    rw [accepts, acceptsFields_iff]
    intro f hf
    obtain ⟨w, hw⟩ := required _ hrequired f.1 (List.mem_map.2 ⟨f, hf, rfl⟩) ms rfl
    have hvalid := properties _ hproperties f.1 _ w
      ((lookupEntry_properties distinct).2 ⟨f, hf, rfl, rfl⟩) hw
    exact ⟨w, hw, (h f hf w).1 (valid_describe_iff.1 hvalid)⟩
  · intro haccepts
    obtain ⟨ms, rfl⟩ : ∃ ms, v = .object ms := by
      cases v <;> simp_all [accepts]
    rw [accepts, acceptsFields_iff] at haccepts
    refine .intro ?type ?properties ?required ?items ?found ?referred
    case type =>
      intro t ht
      rw [htype] at ht
      cases ht
      rfl
    case properties =>
      intro ps hps k u w hu hw
      rw [hproperties] at hps
      cases hps
      obtain ⟨f, hf, rfl, rfl⟩ := (lookupEntry_properties distinct).1 hu
      obtain ⟨w', hw', haccepted⟩ := haccepts f hf
      obtain rfl : w' = w := Option.some.inj (hw'.symm.trans hw)
      exact valid_describe_iff.2 ((h f hf w').2 haccepted)
    case required =>
      intro ks hks k hk ms' hms
      rw [hrequired] at hks
      cases hks
      cases hms
      obtain ⟨f, hf, hfk⟩ := List.mem_map.1 hk
      cases hfk
      obtain ⟨w, hw, -⟩ := haccepts f hf
      exact ⟨w, hw⟩
    all_goals simp [hitems, href]

theorem valid_reference_iff (defined : document.resolve? (reference name) = some s') :
    Valid document (record name summary fields).use v ↔ Valid document s' v := by
  constructor
  · rintro ⟨-, -, -, -, -, referred⟩
    exact referred _ _ rfl defined
  · intro h
    refine .intro ?type ?properties ?required ?items ?found ?referred
    case found =>
      intro r hr
      cases hr
      exact ⟨s', defined⟩
    case referred =>
      intro r u hr hu
      cases hr
      obtain rfl := Option.some.inj (defined.symm.trans hu)
      exact h
    all_goals simp [use, Value.get?, lookupEntry]

theorem valid_use_iff (h : Defined document s) : Valid document s.use v ↔ s.accepts v = true := by
  induction h generalizing v with
  | text => exact valid_text_iff
  | list _ ih => exact valid_list_iff fun _ => ih
  | record defined distinct _ ih =>
    rw [valid_reference_iff defined]
    exact valid_body_iff distinct fun f hf w => ih f hf

theorem keywords_document {k : String} (hk : k ∈ keywords) :
    (record name summary fields).document.get? k = (Value.object (body summary fields)).get? k := by
  have hkeys : ((body summary fields ++ [(definitions, Value.ofMembers (recordsBelow fields)),
      ("$schema", .string dialect), ("title", .string name)]).map Prod.fst).Nodup := by
    cases summary <;> simp [body, definitions]
  -- What only a document has is no keyword, so ordering the entries leaves the body's words.
  have hfresh : k ∉ [definitions, "$schema", "title"] := by
    revert k
    decide
  have hput := lookupEntry_perm ((perm_putEntries hkeys).map _ |>.nodup_iff.2 hkeys)
    (perm_putEntries hkeys) k
  exact hput.trans (lookupEntry_append_of_not_mem hfresh _)

theorem valid_document_iff (distinct : (fields.map Prod.fst).Nodup)
    (h : ∀ f ∈ fields, Defined (record name summary fields).document f.2.2) :
    Valid (record name summary fields).document (record name summary fields).document v ↔
      (record name summary fields).accepts v = true := by
  rw [← valid_body_iff distinct fun f hf w => valid_use_iff (h f hf)]
  exact ⟨fun hv => hv.congr fun k hk => (keywords_document hk).symm,
    fun hv => hv.congr fun k hk => keywords_document hk⟩

end Schema

end SourceDigest
