import SourceDigest.Extraction.Prompt
import SourceDigest.Model.Request
import SourceDigest.Reply.Parse
import SourceDigest.Syntax.Condense

namespace SourceDigest.Extraction

open Json (Value)
open Decimal (Binary)

structure Sampling where
  temperature : Option Binary
  maxTokens : Option UInt32
  deriving DecidableEq, Repr

def Sampling.default : Sampling := ⟨none, none⟩

def systemPrompt : String :=
  "You are a precise code analysis engine. Respond with a single JSON value that matches the "
    ++ "provided JSON schema. Do not add commentary."

def request (sampling : Sampling) (path : String) (outline : Outline) : Model.Request where
  system := some systemPrompt
  prompt := prompt path outline.toJson.compact
  format := some ⟨schemaName, insightsSchema.document⟩
  temperature := sampling.temperature
  maxTokens := sampling.maxTokens

inductive Error where
  | model (failure : Model.Failure)
  | noInsights (path : String)
  deriving DecidableEq, Repr

def Error.message : Error → String
  | .model failure => failure.message
  | .noInsights path => "Unexpected analysis result for " ++ path ++ ": no insights returned"

inductive Outcome where
  | insights (i : Insights)
  | failed (e : Error)
  | abandoned
  deriving DecidableEq, Repr

def Outcome.ofValue (path : String) : Value → Outcome
  | .null => .failed (.noInsights path)
  | v =>
    match Insights.ofJson v with
    | .ok i => .insights i
    | .error m =>
      .failed (.model (.invalidAnswer
        ("response does not match schema " ++ schemaName ++ ": " ++ m.message)))

def Outcome.ofAnswer (path : String) : Model.Answer → Outcome
  | .text raw =>
    match Reply.parse raw with
    | .ok v => .ofValue path v
    | .error e => .failed (.model (.invalidAnswer (e.message raw)))
  | .failed failure => .failed (.model failure)
  | .abandoned => .abandoned

def extract (model : Model) (sampling : Sampling) (path : String) (tree : Syntax.Node) : Outcome :=
  .ofAnswer path (model (request sampling path tree.condense))

theorem ofValue_toJson (path : String) (i : Insights) (h : Insights.ofJson i.toJson = .ok i) :
    Outcome.ofValue path i.toJson = .insights i := by
  simp only [Outcome.ofValue, Insights.toJson] at h ⊢
  rw [h]

end SourceDigest.Extraction
