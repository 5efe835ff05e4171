import SourceDigest.Json.Value

namespace SourceDigest.Model

open Json (Value)
open Decimal (Binary)

structure Format where
  name : String
  schema : Value
  deriving Repr

structure Request where
  system : Option String
  prompt : String
  format : Option Format
  temperature : Option Binary
  maxTokens : Option UInt32
  deriving Repr

inductive Failure where
  | refused (status : Nat) (reason : String)
  | rateLimited (seconds : Nat)
  | notAuthorized (reason : String)
  | unknownModel (name : String)
  | notConfigured (reason : String)
  | timedOut (reason : String)
  | unreachable (reason : String)
  | invalidAnswer (reason : String)
  deriving DecidableEq, Repr

def Failure.message : Failure → String
  | .refused status reason =>
    "API request failed: " ++ reason ++ " (status: " ++ toString status ++ ")"
  | .rateLimited seconds =>
    "Rate limited by provider, retry after " ++ toString seconds ++ "s"
  | .notAuthorized reason => "Authentication failed: " ++ reason
  | .unknownModel name => "Model not found: " ++ name
  | .notConfigured reason => "Provider not configured: " ++ reason
  | .timedOut reason => "Request timed out: " ++ reason
  | .unreachable reason => "Network error: " ++ reason
  | .invalidAnswer reason => "Invalid structured response: " ++ reason

/-- An abandoned call is one that ended without an answer of any kind. -/
inductive Answer where
  | text (raw : String)
  | failed (failure : Failure)
  | abandoned
  deriving DecidableEq, Repr

end SourceDigest.Model

namespace SourceDigest

abbrev Model := Model.Request → Model.Answer

end SourceDigest
