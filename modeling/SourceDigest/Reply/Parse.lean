import SourceDigest.Json.Reader
import SourceDigest.Reply.Fence
import SourceDigest.Reply.Repair

namespace SourceDigest.Reply

open Json (Value Fault)

inductive Unreadable where
  | noValue
  | invalid (repaired : List Char) (fault : Fault)
  deriving Repr

def previewLength : Nat := 200

def preview (raw : String) : String :=
  let cs := raw.toList
  String.ofList (cs.take previewLength) ++ (if previewLength < cs.length then "..." else "")

def Unreadable.message (raw : String) : Unreadable → String
  | .noValue => "no JSON value in response: " ++ preview raw
  | .invalid repaired fault => fault.message repaired ++ "; response: " ++ preview raw

def parseBody (body : List Char) : Except Unreadable Value :=
  match Json.parse body with
  | .ok v => .ok v
  | .error _ =>
    match firstValue? body with
    | none => .error .noValue
    | some candidate =>
      match Json.parse candidate with
      | .ok v => .ok v
      | .error _ =>
        match Json.parse (repair candidate) with
        | .ok v => .ok v
        | .error f => .error (.invalid (repair candidate) f)

def parse (raw : String) : Except Unreadable Value :=
  parseBody (body (Text.trimChars raw.toList))

end SourceDigest.Reply
