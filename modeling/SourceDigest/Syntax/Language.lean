import SourceDigest.Path
import SourceDigest.Text.Lowercase

namespace SourceDigest.Syntax

inductive Language where
  | rust
  | python
  | javaScript
  | typeScript
  | tsx
  deriving DecidableEq, Repr

namespace Language

def all : List Language := [.rust, .python, .javaScript, .typeScript, .tsx]

theorem mem_all (l : Language) : l ∈ all := by
  cases l <;> decide

def name : Language → String
  | .rust => "rust"
  | .python => "python"
  | .javaScript => "javascript"
  | .typeScript => "typescript"
  | .tsx => "tsx"

def extensions : Language → List String
  | .rust => ["rs"]
  | .python => ["py", "pyw", "pyi"]
  | .javaScript => ["js", "mjs", "cjs", "jsx"]
  | .typeScript => ["ts", "mts", "cts"]
  | .tsx => ["tsx"]

def ofName? (n : String) : Option Language := all.find? fun l => l.name == n

def ofExtension? (e : String) : Option Language :=
  all.find? fun l => l.extensions.contains (Text.lower e)

def ofPath? (p : Path) : Option Language := (p.extension?.bind Text.Utf8.decode?).bind ofExtension?

theorem ofName?_name (l : Language) : ofName? l.name = some l := by
  cases l <;> decide

end Language

end SourceDigest.Syntax
