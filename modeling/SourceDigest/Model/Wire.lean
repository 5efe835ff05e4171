import SourceDigest.Json.Printer
import SourceDigest.Model.Chat

namespace SourceDigest.Model

open Text (splitOn splitOnce cutAt hexValue? trimChars)

def lineEnd : List Char := ['\r', '\n']

def ofBytes (bytes : List UInt8) : List Char := bytes.map fun b => Char.ofNat b.toNat

def toBytes (s : List Char) : List UInt8 := s.map fun c => UInt8.ofNat c.toNat

theorem toNat_charOfByte (b : UInt8) : (Char.ofNat b.toNat).toNat = b.toNat := by
  have hb : b.toNat.isValidChar := Or.inl (Nat.lt_trans b.toNat_lt (by decide))
  rw [Char.ofNat, dif_pos hb]
  rfl

theorem toBytes_ofBytes (bytes : List UInt8) : toBytes (ofBytes bytes) = bytes := by
  simp only [toBytes, ofBytes, List.map_map]
  refine (List.map_congr_left fun b _ => ?_).trans (List.map_id bytes)
  rw [Function.comp_apply, toNat_charOfByte, UInt8.ofNat_toNat, id]

namespace Posting

def target (p : Posting) : String := p.url.path ++ p.url.queryText

def hostField (p : Posting) : String := (p.url.host.map Url.Host.text).getD "" ++ p.url.portText

def fields (p : Posting) (length : Nat) : List (String × String) :=
  [("host", p.hostField), ("content-type", "application/json"), ("accept", "*/*"),
    ("content-length", toString length), ("connection", "close")]
  ++ p.authorizations.map fun a => ("authorization", a)

def head (p : Posting) (length : Nat) : String :=
  "POST " ++ p.target ++ " HTTP/1.1\r\n"
    ++ String.join ((p.fields length).map fun (name, value) => name ++ ": " ++ value ++ "\r\n")
    ++ "\r\n"

def message (p : Posting) : List UInt8 :=
  let body := p.body.compact
  Text.Utf8.encode (p.head body.utf8ByteSize ++ body)

end Posting

def statusOf? (line : List Char) : Option Nat :=
  match splitOnce ' ' line with
  | none => none
  | some (version, rest) =>
    if "HTTP/1.".toList.isPrefixOf version then
      (Decimal.readDigits 999 0 (rest.takeWhile (· != ' '))).toOption
    else none

def field? (line : List Char) : Option (String × List Char) :=
  (splitOnce ':' line).map fun (name, value) =>
    (String.ofList (name.map Char.toLower), trimChars value)

def chunkSize? (line : List Char) : Option Nat :=
  match line.takeWhile fun c => (hexValue? c).isSome with
  | [] => none
  | digits => some (digits.foldl (fun n c => n * 16 + (hexValue? c).getD 0) 0)

def dechunk : Nat → List Char → Option (List Char)
  | 0, _ => none
  | n + 1, s =>
    match cutAt lineEnd s with
    | none => none
    | some (line, r) =>
      match chunkSize? line with
      | none => none
      | some 0 => some []
      | some size =>
        if r.length < size then none
        else (dechunk n ((r.drop size).drop lineEnd.length)).map (r.take size ++ ·)

def bodyOf? (fields : List (String × List Char)) (s : List Char) : Option (List Char) :=
  if fields.lookup "transfer-encoding" = some "chunked".toList then dechunk (s.length + 1) s
  else
    match fields.lookup "content-length" with
    | none => some s
    | some digits =>
      match Decimal.readDigits s.length 0 digits with
      | .ok n => some (s.take n)
      | .error _ => none

def Response.ofBytes? (bytes : List UInt8) : Option Response :=
  match cutAt (lineEnd ++ lineEnd) (ofBytes bytes) with
  | none => none
  | some (head, rest) =>
    match (splitOn '\n' head).map (·.filter (· != '\r')) with
    | [] => none
    | first :: lines =>
      let fields := lines.filterMap field?
      match statusOf? first, bodyOf? fields rest with
      | some status, some body =>
        some ⟨status, (fields.lookup "retry-after").map toBytes, toBytes body⟩
      | _, _ => none

def Delivery.ofBytes (bytes : List UInt8) : Delivery :=
  match Response.ofBytes? bytes with
  | some r => .response r
  | none => .undelivered

end SourceDigest.Model
