import SourceDigest.Json.Value
import SourceDigest.Text.Quoted

namespace SourceDigest.Json

open Decimal (binary64 exchange)

def Number.text : Number → String
  | .natural n => toString n
  | .negative n => "-" ++ toString n
  | .float x => x.text binary64 exchange

inductive Found where
  | null
  | bool (b : Bool)
  | number (n : Number)
  | string (s : String)
  | sequence
  | map
  deriving DecidableEq, Repr

namespace Found

def ofValue : Value → Found
  | .null => .null
  | .bool b => .bool b
  | .number n => .number n
  | .string s => .string s
  | .array _ => .sequence
  | .object _ => .map

def text : Found → String
  | .null => "null"
  | .bool b => "boolean `" ++ (if b then "true" else "false") ++ "`"
  | .number (.float x) => "floating point `" ++ (Number.float x).text ++ "`"
  | .number n => "integer `" ++ n.text ++ "`"
  | .string s => "string " ++ Text.quoted s
  | .sequence => "sequence"
  | .map => "map"

end Found

inductive Mismatch where
  | type (found : Found) (wanted : String)
  | value (found : Found) (wanted : String)
  | length (n : Nat) (wanted : String)
  | missing (field : String)
  | duplicate (field : String)
  | rule (text : String)
  deriving DecidableEq, Repr

def Mismatch.message : Mismatch → String
  | .type found wanted => "invalid type: " ++ found.text ++ ", expected " ++ wanted
  | .value found wanted => "invalid value: " ++ found.text ++ ", expected " ++ wanted
  | .length n wanted => "invalid length " ++ toString n ++ ", expected " ++ wanted
  | .missing field => "missing field `" ++ field ++ "`"
  | .duplicate field => "duplicate field `" ++ field ++ "`"
  | .rule text => text

inductive Problem where
  | endInValue
  | endInList
  | endInObject
  | endInString
  | wantedColon
  | wantedListCommaOrEnd
  | wantedObjectCommaOrEnd
  | wantedIdent
  | wantedValue
  | badEscape
  | badNumber
  | numberRange
  | controlCharacter
  | keyNotString
  | loneSurrogate
  | hexEscapeEnd
  | trailingComma
  | trailingCharacters
  | depth
  | mismatch (m : Mismatch)
  deriving DecidableEq, Repr

def Problem.message : Problem → String
  | .endInValue => "EOF while parsing a value"
  | .endInList => "EOF while parsing a list"
  | .endInObject => "EOF while parsing an object"
  | .endInString => "EOF while parsing a string"
  | .wantedColon => "expected `:`"
  | .wantedListCommaOrEnd => "expected `,` or `]`"
  | .wantedObjectCommaOrEnd => "expected `,` or `\x7d`"
  | .wantedIdent => "expected ident"
  | .wantedValue => "expected value"
  | .badEscape => "invalid escape"
  | .badNumber => "invalid number"
  | .numberRange => "number out of range"
  | .controlCharacter => "control character (\\u0000-\\u001F) found while parsing a string"
  | .keyNotString => "key must be a string"
  | .loneSurrogate => "lone leading surrogate in hex escape"
  | .hexEscapeEnd => "unexpected end of hex escape"
  | .trailingComma => "trailing comma"
  | .trailingCharacters => "trailing characters"
  | .depth => "recursion limit exceeded"
  | .mismatch m => m.message

structure Fault where
  problem : Problem
  rest : List Char
  ahead : Nat
  deriving DecidableEq, Repr

def byteLength (s : List Char) : Nat := s.foldr (fun c n => c.utf8Size + n) 0

theorem byteLength_append (s t : List Char) : byteLength (s ++ t) = byteLength s + byteLength t := by
  induction s with
  | nil => exact (Nat.zero_add _).symm
  | cons c s ih =>
    simp only [byteLength, List.cons_append, List.foldr_cons] at ih ⊢
    omega

structure Position where
  line : Nat
  column : Nat
  deriving DecidableEq, Repr

def Position.after : Nat → List Char → Position → Position
  | _, [], p => p
  | n, c :: s, p =>
    if n < c.utf8Size then ⟨p.line, p.column + n⟩
    else Position.after (n - c.utf8Size) s
      (if c = '\n' then ⟨p.line + 1, 0⟩ else ⟨p.line, p.column + c.utf8Size⟩)

def Fault.position (f : Fault) (text : List Char) : Position :=
  Position.after (byteLength text - byteLength f.rest + f.ahead) text ⟨1, 0⟩

def Fault.message (f : Fault) (text : List Char) : String :=
  let p := f.position text
  f.problem.message ++ " at line " ++ toString p.line ++ " column " ++ toString p.column

end SourceDigest.Json
