import SourceDigest.Analysis.Settings
import SourceDigest.Decimal.Unsigned
import SourceDigest.Text.Quoted
import SourceDigest.Tokens

namespace SourceDigest

open Decimal (Binary UnsignedError)
open Analysis (Settings)

structure ModelSection where
  baseUrl : String
  model : Option String
  keyVariable : String
  timeoutSeconds : UInt64
  temperature : Option Binary
  maxTokens : Option UInt32
  contextWindow : UInt64
  deriving DecidableEq, Repr

structure AnalysisSection where
  tokenCeiling : Option UInt64
  promptReserve : UInt64
  maxConcurrent : Option UInt64
  keepSnapshot : Bool
  snapshotDirectory : Option Path
  parseTimeout : Option UInt64
  maxFileSize : UInt64
  skippedDirectories : List String
  deriving DecidableEq, Repr

structure Configuration where
  model : ModelSection
  analysis : AnalysisSection
  deriving DecidableEq, Repr

def ModelSection.default : ModelSection where
  baseUrl := "https://api.openai.com/v1"
  model := none
  keyVariable := "CODEBRIEF_API_KEY"
  timeoutSeconds := 120
  temperature := none
  maxTokens := none
  contextWindow := defaultWindow

def AnalysisSection.default : AnalysisSection where
  tokenCeiling := none
  promptReserve := Settings.defaultPromptReserve
  maxConcurrent := none
  keepSnapshot := true
  snapshotDirectory := none
  parseTimeout := none
  maxFileSize := Scan.defaultMaxFileSize
  skippedDirectories := []

namespace Configuration

def default : Configuration := ⟨.default, .default⟩

def fileName : String := "codebrief.toml"

def baseUrlVariable : String := "CODEBRIEF_BASE_URL"

def modelVariable : String := "CODEBRIEF_MODEL"

def windowVariable : String := "CODEBRIEF_CONTEXT_WINDOW"

def ceilingVariable : String := "CODEBRIEF_TOKEN_CEILING"

def concurrencyVariable : String := "CODEBRIEF_MAX_CONCURRENCY"

inductive Error where
  | unreadable (path : Path) (reason : String)
  | invalid (path : Path)
  | notNumber (variableName raw : String) (cause : UnsignedError)
  | noModel
  deriving DecidableEq, Repr

def Error.message : Error → String
  | .unreadable path _ => "Failed to read config " ++ path.text
  | .invalid path => "Invalid config " ++ path.text
  | .notNumber name raw _ => name ++ " must be a number, got " ++ Text.quoted raw
  | .noModel => "No model configured; set [llm] model in " ++ fileName ++ " or " ++ modelVariable

def Error.reasons : Error → List String
  | .unreadable _ reason => [reason]
  | .invalid _ => []
  | .notNumber _ _ cause => [cause.message]
  | .noModel => []

def settings (c : Configuration) (root : Option Path) : Settings where
  root := root
  tokenCeiling := c.analysis.tokenCeiling
  promptReserve := c.analysis.promptReserve
  maxConcurrent := c.analysis.maxConcurrent
  keepSnapshot := c.analysis.keepSnapshot
  parseTimeout := (c.analysis.parseTimeout.filter (0 < ·)).map Duration.ofMillis
  scan := ⟨c.analysis.maxFileSize, c.analysis.skippedDirectories⟩

abbrev Variables := String → Option String

def maxUInt64 : Nat := UInt64.size - 1

def number? (values : Variables) (name : String) : Except Error (Option UInt64) :=
  match values name with
  | none => .ok none
  | some raw =>
    match Decimal.readUnsigned maxUInt64 (Text.trimChars raw.toList) with
    | .ok n => .ok (some (UInt64.ofNat n))
    | .error cause => .error (.notNumber name raw cause)

def overlay (c : Configuration) (values : Variables) : Except Error Configuration :=
  match number? values windowVariable with
  | .error e => .error e
  | .ok window =>
    match number? values ceilingVariable with
    | .error e => .error e
    | .ok ceiling =>
      match number? values concurrencyVariable with
      | .error e => .error e
      | .ok limit =>
        .ok {
          model := { c.model with
            baseUrl := (values baseUrlVariable).getD c.model.baseUrl
            model := (values modelVariable).or c.model.model
            contextWindow := window.getD c.model.contextWindow }
          analysis := { c.analysis with
            tokenCeiling := ceiling.or c.analysis.tokenCeiling
            maxConcurrent := limit.or c.analysis.maxConcurrent } }

structure Provider where
  baseUrl : String
  model : String
  key : Option String
  timeoutSeconds : UInt64
  deriving DecidableEq, Repr

def provider (c : Configuration) (values : Variables) : Except Error Provider :=
  match c.model.model.filter fun m => !(Text.trimChars m.toList).isEmpty with
  | none => .error .noModel
  | some m => .ok ⟨c.model.baseUrl, m, values c.model.keyVariable, c.model.timeoutSeconds⟩

theorem overlay_of_none (c : Configuration) : c.overlay (fun _ => none) = .ok c := by
  simp [overlay, number?]

end Configuration

end SourceDigest
