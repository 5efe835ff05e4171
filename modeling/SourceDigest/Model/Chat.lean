import SourceDigest.Decimal.Unsigned
import SourceDigest.Json.Typed
import SourceDigest.Model.Request
import SourceDigest.Text.Base64
import SourceDigest.Url.Reader

namespace SourceDigest.Model

open Json (Value)
open Decimal (binary64)

structure Endpoint where
  base : String
  model : String
  key : Option String
  deriving DecidableEq, Repr

def dropEndSlashes (s : String) : String :=
  String.ofList ((s.toList.reverse.dropWhile (· == '/')).reverse)

def Endpoint.ofSettings (base model : String) (key : Option String) : Except Failure Endpoint :=
  if (Text.trimChars model.toList).isEmpty then .error (.notConfigured "model name is empty")
  else .ok ⟨dropEndSlashes base, model, key.filter (!·.isEmpty)⟩

structure Posting where
  url : Url
  authorizations : List String
  body : Value
  deriving BEq, Repr

structure Response where
  status : Nat
  retryAfter : Option (List UInt8)
  body : List UInt8
  deriving DecidableEq, Repr

inductive Delivery where
  | response (r : Response)
  | undelivered
  | late
  deriving DecidableEq, Inhabited, Repr

abbrev Transport := Posting → Delivery

namespace Endpoint

def providerName : String := "openai-compat"

def messageValue (role content : String) : Value :=
  .object [("content", .string content), ("role", .string role)]

def temperatureValue : Decimal.Binary → Value
  | .finite s m e => .number (.float ((Decimal.Binary.finite s m e).convert binary64))
  | _ => .null

def formatValue (f : Format) : Value :=
  .object [
    ("json_schema", .object [("name", .string f.name), ("schema", f.schema)]),
    ("type", .string "json_schema")]

def body (e : Endpoint) (r : Request) : Value :=
  .ofMembers ([("model", .string e.model),
      ("messages", .array ((r.system.map (messageValue "system")).toList
        ++ [messageValue "user" r.prompt])),
      ("stream", .bool false)]
    ++ (r.temperature.map fun t => ("temperature", temperatureValue t)).toList
    ++ (r.maxTokens.map fun n => ("max_tokens", Value.ofNat n.toNat)).toList
    ++ (r.format.map fun f => ("response_format", formatValue f)).toList)

def isHeaderText (s : String) : Bool :=
  s.toList.all fun c => c == '\t' || (0x20 ≤ c.toNat && c.toNat != 0x7f)

def schemes : List String := ["http", "https"]

def unsendable : List Char := ['"', Char.ofNat 0x60, '\x7b', '\x7d']

def maxAddress : Nat := 65534

def isSendable (u : Url) : Bool :=
  schemes.contains u.scheme && !u.host.any (fun h => h.text.toList.any unsendable.contains)
    && u.text.utf8ByteSize ≤ maxAddress

def basicAuthorization (user : String) (password : Option String) : String :=
  "Basic " ++ String.ofList (Text.Base64.encode (Text.Utf8.encode (user ++ ":" ++ password.getD "")))

def posting (e : Endpoint) (r : Request) : Except Failure Posting :=
  match Url.parse? (e.base ++ "/chat/completions") with
  | none => .error (.unreachable "builder error")
  | some url =>
    let refused (u : Url) : Failure := .unreachable ("builder error for url (" ++ u.text ++ ")")
    let bearer := e.key.map ("Bearer " ++ ·)
    let (basic, address) := match url.credentials? with
      | some (user, password) => ([basicAuthorization user password], url.withoutCredentials)
      | none => ([], url)
    if !url.hasHost then .error (refused url)
    else if !bearer.all isHeaderText then .error (.unreachable "builder error")
    else if isSendable address then .ok ⟨address, basic ++ bearer.toList, e.body r⟩
    else .error (refused address)

def messageRecord : Json.TextRecord (Option String) :=
  ⟨"message", [.of "content" false (Json.readOption Json.readText) fun _ c => c]⟩

def choiceRecord : Json.TextRecord (Option String) :=
  ⟨"choice", [.of "message" true (messageRecord.read none) fun _ c => c]⟩

def choicesRecord : Json.TextRecord (List (Option String)) :=
  ⟨"response", [.of "choices" false (Json.readList (choiceRecord.read none)) fun _ l => l]⟩

def choices? (bytes : List UInt8) : Option (List (Option String)) :=
  match Text.Utf8.decode bytes with
  | .error _ => none
  | .ok text => (choicesRecord.parse [] text.toList).toOption

def defaultRetryAfter : Nat := 5

def retryAfter (header : Option (List UInt8)) : Nat :=
  let seconds? := header.bind fun bytes =>
    if bytes.all fun b => b.toNat == 9 || (0x20 ≤ b.toNat && b.toNat < 0x7f) then
      let text := bytes.map fun b => Char.ofNat b.toNat
      (Decimal.readUnsigned (UInt64.size - 1) (Text.trimChars text)).toOption
    else none
  seconds?.getD defaultRetryAfter

def answerOf (e : Endpoint) (r : Response) : Answer :=
  if 200 ≤ r.status && r.status ≤ 299 then
    match choices? r.body with
    | none => .failed (.refused r.status "Failed to parse response: error decoding response body")
    | some choices =>
      match choices.head? with
      | some (some content) => .text content
      | _ => .failed (.refused r.status "No content in response")
  else if r.status = 429 then .failed (.rateLimited (retryAfter r.retryAfter))
  else if r.status = 401 ∨ r.status = 403 then
    .failed (.notAuthorized "Invalid API key or insufficient permissions")
  else if r.status = 404 then .failed (.unknownModel e.model)
  else .failed (.refused r.status (Text.Utf8.decodeLossy r.body))

def ask (e : Endpoint) (send : Transport) (r : Request) : Answer :=
  match e.posting r with
  | .error f => .failed f
  | .ok p =>
    let reason := "error sending request for url (" ++ p.url.text ++ ")"
    match send p with
    | .response response => e.answerOf response
    | .undelivered => .failed (.unreachable reason)
    | .late => .failed (.timedOut reason)

theorem ask_congr (e : Endpoint) {send send' : Transport} {r : Request}
    (h : ∀ p, e.posting r = .ok p → send p = send' p) : e.ask send r = e.ask send' r := by
  unfold ask
  split
  · rfl
  · rename_i p hp
    simp only [h p hp]

end Endpoint

end SourceDigest.Model
