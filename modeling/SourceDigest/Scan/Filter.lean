import SourceDigest.Path
import SourceDigest.Text.Lowercase

namespace SourceDigest.Scan

open Text (lowerChars splitLast)

def skippedDirectories : List String := [
  "node_modules", "bower_components", "jspm_packages", "dist", "build", "target", "vendor",
  "third_party", "third-party", "coverage", "htmlcov", "storybook-static", "__pycache__",
  "__tests__", "__mocks__", "__snapshots__", "venv", "site-packages"]

def skippedAtRoot : List String := ["out", "env", "tmp", "temp", "logs"]

def lockFiles : List String := [
  "package-lock.json", "npm-shrinkwrap.json", "yarn.lock", "pnpm-lock.yaml", "bun.lockb",
  "cargo.lock", "poetry.lock", "pipfile.lock", "composer.lock", "gemfile.lock", "go.sum",
  "flake.lock", "uv.lock"]

def deniedEndings : List String :=
  [".d.ts", ".d.mts", ".d.cts", ".map", ".min.js", ".min.css", ".lock"]

def binaryExtensions : List String := [
  "png", "jpg", "jpeg", "gif", "bmp", "ico", "webp", "svg", "pdf", "zip", "gz", "tar", "tgz",
  "7z", "rar", "exe", "dll", "so", "dylib", "a", "o", "class", "jar", "war", "wasm", "pyc",
  "pyo", "woff", "woff2", "ttf", "otf", "eot", "mp3", "mp4", "mov", "avi", "bin", "dat", "db",
  "sqlite"]

def allowedNames : List String := [
  "Dockerfile", "Makefile", "makefile", "Justfile", "Gemfile", "Procfile", "Rakefile", "Pipfile"]

def allowedExtensions : List String := [
  "rs", "py", "pyi", "js", "mjs", "cjs", "jsx", "ts", "mts", "cts", "tsx", "java", "kt", "kts",
  "go", "c", "h", "cpp", "cc", "cxx", "hpp", "cs", "rb", "swift", "php", "scala", "dart", "zig",
  "lua", "ex", "exs", "vue", "svelte", "astro",
  "sh", "bash", "zsh", "ps1",
  "md", "mdx", "rst", "txt",
  "json", "yaml", "yml", "toml", "ini", "cfg", "xml", "html", "css", "scss", "less", "sql",
  "graphql", "gql", "proto", "tf", "hcl", "gradle"]

def isOneOf (words : List String) (s : List Char) : Bool := words.any fun w => w.toList == s

theorem isOneOf_iff {words : List String} {s : List Char} :
    isOneOf words s = true ↔ String.ofList s ∈ words := by
  unfold isOneOf
  simp only [List.any_eq_true, beq_iff_eq]
  constructor
  · rintro ⟨w, hw, rfl⟩
    rwa [String.ofList_toList]
  · intro h
    exact ⟨_, h, String.toList_ofList⟩

def endsWith (ending : String) (s : List Char) : Bool := ending.toList.isSuffixOf s

def startsWithDot (s : List Char) : Bool := s.head? == some '.'

def isTestFile (lowered : List Char) : Bool :=
  match splitLast '.' lowered with
  | (none, _) => false
  | (some stem, _) =>
    endsWith ".test" stem || endsWith ".spec" stem
      || Text.contains ".test.".toList stem || Text.contains ".spec.".toList stem
      || endsWith "_test" stem || endsWith "_spec" stem
      || (endsWith ".py" lowered && "test_".toList.isPrefixOf stem)

def hasAllowedExtension (lowered : List Char) : Bool :=
  match splitLast '.' lowered with
  | (some (_ :: _), extension) =>
    !isOneOf binaryExtensions extension && isOneOf allowedExtensions extension
  | _ => false

def isAnalyzableName (name : List Char) : Bool :=
  let lowered := lowerChars name
  !startsWithDot name && !isOneOf lockFiles lowered && !isTestFile lowered
    && !(deniedEndings.any fun e => endsWith e lowered)
    && (isOneOf allowedNames name || hasAllowedExtension lowered)

def isAnalyzable (p : Path) : Bool :=
  match p.fileName?.bind Text.Utf8.decode? with
  | none => false
  | some n => isAnalyzableName n.toList

def equalIgnoringCase (s t : List Char) : Bool := s.map Char.toLower == t.map Char.toLower

def isSkippedDirectory (extra : List String) (atRoot : Bool) (name : String) : Bool :=
  let lowered := lowerChars name.toList
  startsWithDot name.toList || isOneOf skippedDirectories lowered
    || (atRoot && isOneOf skippedAtRoot lowered)
    || extra.any fun e => equalIgnoringCase e.toList name.toList

theorem isAnalyzableName_of_hidden {s : List Char} : isAnalyzableName ('.' :: s) = false := by
  simp [isAnalyzableName, startsWithDot]

theorem isSkippedDirectory_of_hidden (extra : List String) (atRoot : Bool) (s : List Char) :
    isSkippedDirectory extra atRoot (String.ofList ('.' :: s)) = true := by
  simp [isSkippedDirectory, startsWithDot]

end SourceDigest.Scan
