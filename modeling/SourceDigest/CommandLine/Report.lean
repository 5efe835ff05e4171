import SourceDigest.Analysis.Analyze
import SourceDigest.Configuration

namespace SourceDigest.CommandLine

open Text (splitOn joinWith)

def indentLines (start next : String) (s : String) : String :=
  start ++ String.ofList
    (joinWith ('\n' :: next.toList) (splitOn '\n' s.toList))

def numbered (n : Nat) (cause : String) : String :=
  let digits := toString n
  let start := String.ofList (List.replicate (5 - digits.length) ' ') ++ digits ++ ": "
  indentLines start "       " cause

def report (message : String) (causes : List String) : String :=
  "Error: " ++ message
    ++ (match causes with
      | [] => ""
      | [cause] => "\n\nCaused by:\n" ++ indentLines "    " "    " cause
      | causes =>
        "\n\nCaused by:\n" ++ "\n".intercalate
          (causes.zipIdx.map fun (cause, n) => numbered n cause))

def scanReasons : Scan.Error → List String
  | .failed f => [f.cause.message]
  | _ => []

def analysisMessages : Analysis.Error → List String
  | .discovery e => (Analysis.Error.discovery e).message :: e.message :: scanReasons e
  | e => [e.message]

end SourceDigest.CommandLine
