import SourceDigest.Extraction.Extract
import SourceDigest.Proofs.Json.Equality
import SourceDigest.Proofs.Schema.Decoding

namespace SourceDigest.Extraction

open Json (Value)
open Json.Value (Valid)
open Schema (Decides Defined decides_text)

variable {v : Value} {path : String}

theorem decides_import : importSchema.Decides Import.ofJson :=
  Decides.record (r := Import.record) (.cons (decides_text.field _ _ _) .nil) (by decide) _

theorem decides_class : classSchema.Decides (Class.ofJson "ClassInsight") :=
  Decides.record (r := Class.record "ClassInsight") (.cons (decides_text.field _ _ _) .nil)
    (by decide) _

theorem decides_function : functionSchema.Decides (Function.ofJson "FunctionInsight" "parameters") :=
  Decides.record (r := Function.record "FunctionInsight" "parameters")
    (.cons (decides_text.field _ _ _) (.cons (decides_text.list.field _ _ _) .nil)) (by decide) _

theorem decides_insights : insightsSchema.Decides Insights.ofJson :=
  Decides.record (r := Insights.record)
    (.cons (decides_function.list.field _ _ _) (.cons (decides_class.list.field _ _ _)
      (.cons (decides_import.list.field _ _ _) .nil))) (by decide) _

theorem defined_function : Defined insightsSchema.document functionSchema := by
  refine .record (by decide +kernel) (by decide) ?_
  simp only [List.forall_mem_cons]
  exact ⟨.text, .list .text, by simp⟩

theorem defined_class : Defined insightsSchema.document classSchema := by
  refine .record (by decide +kernel) (by decide) ?_
  simp only [List.forall_mem_cons]
  exact ⟨.text, by simp⟩

theorem defined_import : Defined insightsSchema.document importSchema := by
  refine .record (by decide +kernel) (by decide) ?_
  simp only [List.forall_mem_cons]
  exact ⟨.text, by simp⟩

def Conforms (v : Value) : Prop := Valid insightsSchema.document insightsSchema.document v

theorem conforms_iff : Conforms v ↔ insightsSchema.accepts v = true := by
  refine Schema.valid_document_iff (by decide) ?_
  simp only [List.forall_mem_cons]
  exact ⟨.list defined_function, .list defined_class, .list defined_import, by simp⟩

theorem isOk_ofJson_iff (h : v.Keyed) :
    (Insights.ofJson v).isOk = true ↔ Conforms (insightsSchema.withNames v) := by
  rw [conforms_iff, decides_insights v h]

theorem ofValue_of_ne_null (hnull : v ≠ .null) :
    Outcome.ofValue path v =
      match Insights.ofJson v with
      | .ok i => .insights i
      | .error m => .failed (.model (.invalidAnswer
          ("response does not match schema " ++ schemaName ++ ": " ++ m.message))) := by
  cases v <;> first | rfl | exact absurd rfl hnull

theorem exists_insights_iff (hnull : v ≠ .null) :
    (∃ i, Outcome.ofValue path v = .insights i) ↔ (Insights.ofJson v).isOk = true := by
  rw [ofValue_of_ne_null hnull]
  cases Insights.ofJson v <;> simp

theorem ofValue_of_not_isOk (hnull : v ≠ .null) (h : ¬ (Insights.ofJson v).isOk = true) :
    ∃ reason, Outcome.ofValue path v = .failed (.model (.invalidAnswer
      ("response does not match schema " ++ schemaName ++ ": " ++ reason))) := by
  rw [ofValue_of_ne_null hnull]
  cases hread : Insights.ofJson v with
  | error m => exact ⟨m.message, rfl⟩
  | ok i => exact absurd (by rw [hread]; rfl) h

theorem ofValue_conforms (path : String) :
    (∀ v : Value, v.Keyed → v ≠ .null →
      ((∃ i, Outcome.ofValue path v = .insights i) ↔ Conforms (insightsSchema.withNames v)) ∧
        (¬ Conforms (insightsSchema.withNames v) →
          ∃ reason, Outcome.ofValue path v = .failed (.model (.invalidAnswer
            ("response does not match schema " ++ schemaName ++ ": " ++ reason)))) ∧
        (Conforms v → insightsSchema.withNames v = v)) ∧
      ∀ (model : Model) sampling tree raw v,
        model (request sampling path tree.condense) = .text raw → Reply.parse raw = .ok v →
          v.Keyed ∧ extract model sampling path tree = .ofValue path v ∧
            (request sampling path tree.condense).format =
              some ⟨schemaName, insightsSchema.document⟩ := by
  refine ⟨fun v hv hnull => ⟨?_, fun h => ?_, fun h => ?_⟩, ?_⟩
  · rw [exists_insights_iff hnull, isOk_ofJson_iff hv]
  · exact ofValue_of_not_isOk hnull (mt (isOk_ofJson_iff hv).1 h)
  · exact Schema.withNames_of_accepts insightsSchema hv (conforms_iff.1 h)
  · intro model sampling tree raw v hmodel hparse
    refine ⟨Reply.keyed_of_parse hparse, ?_, rfl⟩
    rw [extract, hmodel, Outcome.ofAnswer, hparse]

def listedFunction : Value := .object [
  ("classes", .array []), ("functions", .array [.array [.string "f", .ofTexts ["a"]]]),
  ("imports", .array [])]

theorem ofValue_conforms_listedFunction :
    listedFunction.Keyed ∧ listedFunction ≠ .null ∧
      Conforms (insightsSchema.withNames listedFunction) ∧
      extract (fun _ => .text listedFunction.compact) .default "a.ts" .emptyNode =
        .insights ⟨[⟨"f", ["a"]⟩], [], []⟩ := by
  have hread : Reply.parse listedFunction.compact = .ok listedFunction := rfl
  have hinsights : Outcome.ofValue "a.ts" listedFunction = .insights ⟨[⟨"f", ["a"]⟩], [], []⟩ := by
    decide +kernel
  have hnull : listedFunction ≠ .null := by decide +kernel
  obtain ⟨hvalues, hreplies⟩ := ofValue_conforms "a.ts"
  obtain ⟨hkeyed, hextract, -⟩ :=
    hreplies (fun _ => .text listedFunction.compact) .default .emptyNode _ _ rfl hread
  exact ⟨hkeyed, hnull, (hvalues _ hkeyed hnull).1.1 ⟨_, hinsights⟩, hextract.trans hinsights⟩

theorem extract_lists :
    extract (fun _ => .text "[[],[],[]]") .default "a.ts" .emptyNode = .insights .empty ∧
      Reply.parse "[[],[],[]]" = .ok (.array [.array [], .array [], .array []]) ∧
      ¬ Conforms (.array [.array [], .array [], .array []]) := by
  refine ⟨by decide +kernel, rfl, ?_⟩
  rw [conforms_iff]
  exact Bool.false_ne_true

end SourceDigest.Extraction
