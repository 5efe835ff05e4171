import SourceDigest.Url.Host

namespace SourceDigest

structure Url where
  scheme : String
  user : String
  password : String
  host : Option Url.Host
  port : Option Nat
  path : String
  query : Option String
  fragment : Option String
  deriving DecidableEq, Repr

namespace Url

def credentialsText (u : Url) : String :=
  if u.user.isEmpty && u.password.isEmpty then ""
  else u.user ++ (if u.password.isEmpty then "" else ":" ++ u.password) ++ "@"

def portText (u : Url) : String :=
  match u.port with
  | some n => ":" ++ toString n
  | none => ""

def placeText (u : Url) : String :=
  match u.host with
  | some h => "//" ++ u.credentialsText ++ h.text ++ u.portText
  | none => if u.path.startsWith "//" then "/." else ""

def queryText (u : Url) : String :=
  match u.query with
  | some q => "?" ++ q
  | none => ""

def text (u : Url) : String :=
  u.scheme ++ ":" ++ u.placeText ++ u.path ++ u.queryText
    ++ (match u.fragment with
      | some f => "#" ++ f
      | none => "")

def hasHost (u : Url) : Bool := u.host.any (!·.isEmpty)

def credentials? (u : Url) : Option (String × Option String) :=
  let read (s : String) : Option String := (Text.Utf8.decode (unescape s.toList)).toOption
  match read u.user with
  | none => none
  | some user =>
    let password := if u.password.isEmpty then none else read u.password
    if user.isEmpty && password.isNone then none else some (user, password)

def withoutCredentials (u : Url) : Url := { u with user := "", password := "" }

theorem credentials?_withoutCredentials (u : Url) : u.withoutCredentials.credentials? = none := by
  rfl

end Url

end SourceDigest
