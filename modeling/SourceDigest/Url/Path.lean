import SourceDigest.Text.Split
import SourceDigest.Url.Escape

namespace SourceDigest.Url

open Text (splitOn joinWith)

def lowerAscii (s : List Char) : List Char := s.map Char.toLower

def isDot (segment : List Char) : Bool :=
  [".", "%2e"].contains (String.ofList (lowerAscii segment))

def isDoubleDot (segment : List Char) : Bool :=
  ["..", ".%2e", "%2e.", "%2e%2e"].contains (String.ofList (lowerAscii segment))

def isDrive : List Char → Bool
  | letter :: mark :: rest =>
    letter.isAlpha && (mark == ':' || mark == '|') && (rest.isEmpty || rest.head? == some '\\')
  | _ => false

def leave : List (List Char) → List (List Char)
  | [] => []
  | segment :: kept => if isDrive segment then segment :: kept else kept

def keep (file : Bool) (kept : List (List Char)) (segment : List Char) : List (List Char) :=
  if file && kept.isEmpty && isDrive segment then [segment.take 1 ++ [':']] else segment :: kept

def resolveDots (file : Bool) : List (List Char) → List (List Char) → List (List Char)
  | kept, [] => kept.reverse
  | kept, [last] =>
    (if isDoubleDot last then [] :: leave kept
      else if isDot last then [] :: kept
      else keep file kept last).reverse
  | kept, segment :: rest =>
    if isDoubleDot segment then resolveDots file (leave kept) rest
    else if isDot segment then resolveDots file kept rest
    else resolveDots file (keep file kept segment) rest

def segmentsOf (special file : Bool) (s : List Char) : List (List Char) :=
  let s := if special then s.map fun c => if c = '\\' then '/' else c else s
  resolveDots file [] (splitOn '/' s)

def pathText (segments : List (List Char)) : String :=
  String.ofList ('/' :: joinWith ['/'] (segments.map (escape pathRefused)))

def resolvePath (special : Bool) (s : List Char) : String := pathText (segmentsOf special false s)

def filePathText (segments : List (List Char)) : String :=
  match segments.dropWhile List.isEmpty with
  | [] => "/"
  | segments => pathText segments

theorem resolveDots_leave (file : Bool) {segment : List Char} (rest : List (List Char))
    (h : isDoubleDot segment = true) (hr : rest ≠ []) :
    resolveDots file [] (segment :: rest) = resolveDots file [] rest := by
  cases rest with
  | nil => exact absurd rfl hr
  | cons next rest => simp [resolveDots, h, leave]

end SourceDigest.Url
