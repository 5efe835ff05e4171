import SourceDigest.Url
import SourceDigest.Url.Path

namespace SourceDigest.Url

open Text (splitOnce splitLast)

def hostSchemes : List (String × Nat) :=
  [("http", 80), ("https", 443), ("ws", 80), ("wss", 443), ("ftp", 21)]

def isSchemeChar (c : Char) : Bool := c.isAlphanum || c == '+' || c == '-' || c == '.'

def scheme? (s : List Char) : Option (String × List Char) :=
  match splitOnce ':' s with
  | some (name, rest) =>
    if name.head?.any Char.isAlpha && name.all isSchemeChar then
      some (String.ofList (lowerAscii name), rest)
    else none
  | none => none

structure Place where
  user : String
  password : String
  host : Host
  port : Option Nat
  rest : List Char
  deriving DecidableEq, Repr

def splitPort (s : List Char) : List Char × List Char :=
  if s.head? = some '[' then
    match splitLast ']' s with
    | (some name, rest) => (name ++ [']'], rest)
    | (none, _) => (s, [])
  else (s.takeWhile (· != ':'), s.dropWhile (· != ':'))

def port? : List Char → Option (Option Nat × List Char)
  | [] => some (none, [])
  | c :: s =>
    let rest := s.dropWhile Char.isDigit
    if c = ':' && (rest.isEmpty || rest.head? = some '\\') then
      match s.takeWhile Char.isDigit with
      | [] => some (none, rest)
      | digits => (Decimal.readDigits 65535 0 digits).toOption.map fun n => (some n, rest)
    else none

def place? (usual : Option Nat) (s : List Char) : Option Place :=
  let (credentials, s) := splitLast '@' s
  let (user, password) := match splitOnce ':' (credentials.getD []) with
    | some (user, password) => (user, password)
    | none => (credentials.getD [], [])
  let write (s : List Char) : String := String.ofList (escape credentialsRefused s)
  let (name, behind) := splitPort s
  match (if usual.isSome then Host.ofDomain? name else Host.ofText? name), port? behind with
  | some host, some (port, rest) =>
    if host.isEmpty && (credentials.any (· != [':']) || !behind.isEmpty) then none
    else some ⟨write user, write password, host, port.filter (some · != usual), rest⟩
  | _, _ => none

def cutMark (mark : Char) (s : List Char) : List Char × Option (List Char) :=
  match splitOnce mark s with
  | some (before, after) => (before, some after)
  | none => (s, none)

def isSlash (special : Bool) (c : Char) : Bool := c == '/' || (special && c == '\\')

def bare (scheme : String) (host : Option Host) (path : String) : Url :=
  ⟨scheme, "", "", host, none, path, none, none⟩

def ofPlace? (scheme : String) (usual : Option Nat) (s : List Char) : Option Url :=
  let special := usual.isSome
  (place? usual (s.takeWhile (!isSlash special ·))).map fun p =>
    let path := match p.rest ++ s.dropWhile (!isSlash special ·) with
      | [] => if special then "/" else ""
      | c :: path => resolvePath special (if p.rest.isEmpty then path else c :: path)
    ⟨scheme, p.user, p.password, some p.host, p.port, path, none, none⟩

def ofFilePath (host : Host) (path : List Char) : Url :=
  let segments := segmentsOf true true path
  let host := if segments.head?.any isDrive then .name "" else host
  bare "file" (some host) (filePathText segments)

def ofFile? (s : List Char) : Option Url :=
  let here : Host := .name ""
  match s with
  | a :: b :: s =>
    if isSlash true a && isSlash true b then
      let name := s.takeWhile (!isSlash true ·)
      let path := s.dropWhile (!isSlash true ·)
      if isDrive name then some (ofFilePath here s)
      else if name.isEmpty then some (ofFilePath here path)
      else
        (Host.ofDomain? name).map fun host =>
          if host = .name "localhost" then ofFilePath here path else ofFilePath host (path.drop 1)
    else some (ofFilePath here (if isSlash true a then b :: s else a :: b :: s))
  | s => some (ofFilePath here (s.dropWhile (isSlash true)))

def ofRest? (scheme : String) (s : List Char) : Option Url :=
  if scheme = "file" then ofFile? s
  else
    match hostSchemes.lookup scheme with
    | some port => ofPlace? scheme (some port) (s.dropWhile (isSlash true))
    | none =>
      match s with
      | '/' :: '/' :: s => ofPlace? scheme none s
      | '/' :: path => some (bare scheme none (resolvePath false path))
      | path => some (bare scheme none (String.ofList (escape [] path)))

def isEdge (c : Char) : Bool := c.toNat ≤ 0x20

def isLineOrTab (c : Char) : Bool := c == '\t' || c == '\n' || c == '\r'

def parse? (s : String) : Option Url :=
  let cs := ((s.toList.dropWhile isEdge).reverse.dropWhile isEdge).reverse
  match scheme? (cs.filter (!isLineOrTab ·)) with
  | none => none
  | some (scheme, rest) =>
    let (rest, fragment) := cutMark '#' rest
    let (rest, query) := cutMark '?' rest
    let special := scheme = "file" || (hostSchemes.lookup scheme).isSome
    (ofRest? scheme rest).map fun u =>
      { u with
        query := query.map fun q => String.ofList (escape (queryRefused special) q)
        fragment := fragment.map fun f => String.ofList (escape fragmentRefused f) }

end SourceDigest.Url
