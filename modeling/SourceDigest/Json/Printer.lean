import SourceDigest.Json.Fault

namespace SourceDigest.Json

def hexDigit (n : Nat) : Char := Nat.digitChar (n % 16)

def escapeChar (c : Char) : List Char :=
  if c = '"' then ['\\', '"']
  else if c = '\\' then ['\\', '\\']
  else if c = '\n' then ['\\', 'n']
  else if c = '\r' then ['\\', 'r']
  else if c = '\t' then ['\\', 't']
  else if c = '\x08' then ['\\', 'b']
  else if c = '\x0c' then ['\\', 'f']
  else if c.toNat < 0x20 then ['\\', 'u', '0', '0', hexDigit (c.toNat / 16), hexDigit c.toNat]
  else [c]

def stringChars (s : String) : List Char := '"' :: s.toList.flatMap escapeChar ++ ['"']

def wordChars (s : String) : List Char := s.toList

namespace Value

mutual

def compactChars : Value → List Char
  | .null => wordChars "null"
  | .bool b => wordChars (if b then "true" else "false")
  | .number n => n.text.toList
  | .string s => stringChars s
  | .array [] => ['[', ']']
  | .array (v :: vs) => '[' :: (compactChars v ++ compactItems vs)
  | .object [] => ['\x7b', '\x7d']
  | .object ((k, v) :: ms) =>
    '\x7b' :: (stringChars k ++ ':' :: (compactChars v ++ compactMembers ms))

def compactItems : List Value → List Char
  | [] => [']']
  | v :: vs => ',' :: (compactChars v ++ compactItems vs)

def compactMembers : List (String × Value) → List Char
  | [] => ['\x7d']
  | (k, v) :: ms => ',' :: (stringChars k ++ ':' :: (compactChars v ++ compactMembers ms))

end

def newline (depth : Nat) : List Char := '\n' :: List.replicate (2 * depth) ' '

mutual

def prettyChars (depth : Nat) : Value → List Char
  | .array (v :: vs) =>
    '[' :: (newline (depth + 1) ++ prettyChars (depth + 1) v ++ prettyItems depth vs)
  | .object ((k, v) :: ms) =>
    '\x7b' :: (newline (depth + 1) ++ stringChars k ++ ':' :: ' ' :: prettyChars (depth + 1) v
      ++ prettyMembers depth ms)
  | .null => wordChars "null"
  | .bool b => wordChars (if b then "true" else "false")
  | .number n => n.text.toList
  | .string s => stringChars s
  | .array [] => ['[', ']']
  | .object [] => ['\x7b', '\x7d']

def prettyItems (depth : Nat) : List Value → List Char
  | [] => newline depth ++ [']']
  | v :: vs => ',' :: (newline (depth + 1) ++ prettyChars (depth + 1) v ++ prettyItems depth vs)

def prettyMembers (depth : Nat) : List (String × Value) → List Char
  | [] => newline depth ++ ['\x7d']
  | (k, v) :: ms =>
    ',' :: (newline (depth + 1) ++ stringChars k ++ ':' :: ' ' :: prettyChars (depth + 1) v
      ++ prettyMembers depth ms)

end

def compact (v : Value) : String := String.ofList v.compactChars

def pretty (v : Value) : String := String.ofList (v.prettyChars 0)

end Value

end SourceDigest.Json
