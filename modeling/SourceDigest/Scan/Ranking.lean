import SourceDigest.Path
import SourceDigest.Priority
import SourceDigest.Scan.Glob
import SourceDigest.Text.Lowercase

namespace SourceDigest.Scan

def codeExtensions : List String := [
  "rs", "py", "pyi", "js", "mjs", "cjs", "jsx", "ts", "mts", "cts", "tsx", "java", "kt", "kts",
  "go", "c", "h", "cpp", "cc", "cxx", "hpp", "cs", "rb", "swift", "php", "scala", "dart", "zig",
  "lua", "ex", "exs", "vue", "svelte", "astro", "sh", "bash", "zsh", "ps1", "sql", "graphql",
  "gql", "proto"]

def codePattern (start : String) : String :=
  start ++ "*.\x7b" ++ ",".intercalate codeExtensions ++ "\x7d"

structure Level where
  priority : Priority
  names : List String
  paths : List String

def manifestLevel : Level where
  priority := .highest
  names := [
    "package.json", "cargo.toml", "pyproject.toml", "setup.py", "setup.cfg", "pipfile",
    "requirements*.txt", "go.mod", "gemfile", "composer.json", "pom.xml", "build.gradle",
    "build.gradle.kts", "deno.json", "tsconfig.json", "readme*"]
  paths := []

def entryLevel : Level where
  priority := ⟨2, by decide, by decide⟩
  names := [
    "main.*", "index.*", "app.*", "server.*", "lib.rs", "mod.rs", "__init__.py", "__main__.py",
    "manage.py", "*.config.*", "dockerfile", "docker-compose.*", "compose.yaml", "compose.yml",
    "makefile", "justfile"]
  paths := []

def sourceLevel : Level where
  priority := ⟨3, by decide, by decide⟩
  names := []
  paths := [
    codePattern "**/src/**/", codePattern "lib/**/", codePattern "app/**/", codePattern "pkg/**/",
    codePattern "cmd/**/", codePattern "internal/**/"]

def codeLevel : Level where
  priority := ⟨4, by decide, by decide⟩
  names := [codePattern ""]
  paths := []

def levels : List Level := [manifestLevel, entryLevel, sourceLevel, codeLevel]

def Level.covers (l : Level) (name path : List Char) : Bool :=
  l.names.any (globMatches · name) || l.paths.any (globMatches · path)

def priorityOf (relative : String) : Priority :=
  let path := Text.lowerChars relative.toList
  let name := (Text.splitLast '/' path).2
  match levels.find? (·.covers name path) with
  | some l => l.priority
  | none => .lowest

def FileRecord.ranksUpTo (a b : FileRecord) : Bool :=
  let la := a.priorityOrLowest.level
  let lb := b.priorityOrLowest.level
  if la ≠ lb then la < lb
  else if a.size ≠ b.size then a.size < b.size
  else if depthOf a.path ≠ depthOf b.path then depthOf a.path < depthOf b.path
  else a.path ≤ b.path

def withPriority (f : FileRecord) : FileRecord := { f with priority := some (priorityOf f.path) }

def prioritize (files : List FileRecord) : List FileRecord :=
  (files.map withPriority).mergeSort FileRecord.ranksUpTo

theorem prioritize_perm (files : List FileRecord) :
    (prioritize files).Perm (files.map withPriority) :=
  List.mergeSort_perm _ _

theorem ranksUpTo_refl (a : FileRecord) : FileRecord.ranksUpTo a a = true := by
  simp [FileRecord.ranksUpTo]

end SourceDigest.Scan
