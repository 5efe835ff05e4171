import SourceDigest.Text.Split

namespace SourceDigest.Scan

inductive Glob where
  | char (c : Char)
  | star
  | leadingDirectories
  | innerDirectories
  | oneOf (alternatives : List (List Char))
  deriving Repr

namespace Glob

def afterStretch (rest : List Char → Bool) : List Char → Bool
  | [] => rest []
  | c :: s => rest (c :: s) || (c != '/' && afterStretch rest s)

def afterSlash (rest : List Char → Bool) : List Char → Bool
  | [] => false
  | c :: s => (c == '/' && rest s) || afterSlash rest s

def afterWord (rest : List Char → Bool) (word s : List Char) : Bool :=
  word.isPrefixOf s && rest (s.drop word.length)

def matchPieces : List Glob → List Char → Bool
  | [], s => s.isEmpty
  | .char c :: g, s => afterWord (matchPieces g) [c] s
  | .star :: g, s => afterStretch (matchPieces g) s
  | .leadingDirectories :: g, s => matchPieces g s || afterSlash (matchPieces g) s
  | .innerDirectories :: g, s => s.head? == some '/' && afterSlash (matchPieces g) s
  | .oneOf alternatives :: g, s => alternatives.any fun w => afterWord (matchPieces g) w s

def splitBraces (s : List Char) : List (List Char) × List Char :=
  (Text.splitOn ',' (s.takeWhile (· != '\x7d')), (s.dropWhile (· != '\x7d')).drop 1)

def ofChars : Nat → List Char → List Glob
  | 0, _ => []
  | _ + 1, [] => []
  | n + 1, '/' :: '*' :: '*' :: '/' :: s => .innerDirectories :: ofChars n s
  | n + 1, '*' :: s => .star :: ofChars n s
  | n + 1, '\x7b' :: s =>
    let (alternatives, rest) := splitBraces s
    .oneOf alternatives :: ofChars n rest
  | n + 1, c :: s => .char c :: ofChars n s

def ofPattern (pattern : String) : List Glob :=
  match pattern.toList with
  | '*' :: '*' :: '/' :: s => .leadingDirectories :: ofChars s.length s
  | s => ofChars s.length s

end Glob

def globMatches (pattern : String) (s : List Char) : Bool :=
  Glob.matchPieces (Glob.ofPattern pattern) s

end SourceDigest.Scan
