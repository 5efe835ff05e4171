import SourceDigest.Manifest
import SourceDigest.Path
import SourceDigest.Priority
import SourceDigest.TechStack
import SourceDigest.Text.Lowercase

namespace SourceDigest.TechStack

open Text (lower splitLast)

def languageExtensions : List (String × String) := [
  ("rs", "Rust"), ("py", "Python"), ("pyi", "Python"), ("js", "JavaScript"),
  ("mjs", "JavaScript"), ("cjs", "JavaScript"), ("jsx", "JavaScript"), ("ts", "TypeScript"),
  ("mts", "TypeScript"), ("cts", "TypeScript"), ("tsx", "TypeScript"), ("go", "Go"),
  ("java", "Java"), ("kt", "Kotlin"), ("kts", "Kotlin"), ("rb", "Ruby"), ("php", "PHP"),
  ("cs", "C#"), ("c", "C"), ("h", "C"), ("cpp", "C++"), ("cc", "C++"), ("cxx", "C++"),
  ("hpp", "C++"), ("swift", "Swift"), ("scala", "Scala"), ("dart", "Dart"), ("ex", "Elixir"),
  ("exs", "Elixir"), ("lua", "Lua"), ("zig", "Zig"), ("vue", "Vue"), ("svelte", "Svelte"),
  ("sh", "Shell"), ("bash", "Shell"), ("zsh", "Shell"), ("sql", "SQL")]

def frameworkNames : List (String × String) := [
  ("next", "Next.js"), ("react", "React"), ("vue", "Vue"), ("nuxt", "Nuxt"),
  ("svelte", "Svelte"), ("@sveltejs/kit", "SvelteKit"), ("@angular/core", "Angular"),
  ("solid-js", "Solid"), ("@remix-run/react", "Remix"), ("astro", "Astro"),
  ("express", "Express"), ("fastify", "Fastify"), ("koa", "Koa"), ("hono", "Hono"),
  ("@nestjs/core", "NestJS"), ("electron", "Electron"), ("react-native", "React Native")]

def buildToolNames : List (String × String) := [
  ("typescript", "TypeScript compiler"), ("vite", "Vite"), ("webpack", "Webpack"),
  ("rollup", "Rollup"), ("esbuild", "esbuild"), ("parcel", "Parcel"), ("turbo", "Turborepo"),
  ("tsup", "tsup"), ("@swc/core", "SWC"), ("@babel/core", "Babel")]

def testingNames : List (String × String) := [
  ("jest", "Jest"), ("vitest", "Vitest"), ("mocha", "Mocha"), ("ava", "AVA"),
  ("jasmine", "Jasmine"), ("cypress", "Cypress"), ("@playwright/test", "Playwright"),
  ("@testing-library/react", "Testing Library")]

def manifestTools : List (String × String) := [
  ("cargo.toml", "Cargo"), ("go.mod", "Go modules"), ("pyproject.toml", "Python packaging"),
  ("requirements.txt", "pip"), ("pipfile", "Pipenv"), ("pom.xml", "Maven"),
  ("build.gradle", "Gradle"), ("build.gradle.kts", "Gradle"), ("gemfile", "Bundler"),
  ("composer.json", "Composer"), ("dockerfile", "Docker"), ("makefile", "Make")]

def languageOf? (f : FileRecord) : Option String :=
  match splitLast '.' (lastSegment f.path).toList with
  | (some _, extension) => languageExtensions.lookup (lower (String.ofList extension))
  | (none, _) => none

def toolOf? (f : FileRecord) : Option String := manifestTools.lookup (lower (lastSegment f.path))

def countName (name : String) (counts : Dict Nat) : Dict Nat :=
  counts.insert name ((counts.get? name).getD 0 + 1)

def countNames (names : List String) : Dict Nat :=
  names.foldl (fun counts n => countName n counts) .empty

def ranksBefore (a b : String × Nat) : Bool :=
  if a.2 ≠ b.2 then b.2 < a.2 else a.1 ≤ b.1

def languagesOf (files : List FileRecord) : List String :=
  ((countNames (files.filterMap languageOf?)).entries.mergeSort ranksBefore).map Prod.fst

def matching (dependencies : List String) (table : List (String × String)) : List String :=
  (table.filter fun e => dependencies.contains e.1).map Prod.snd

def defaultManager : String := "npm"

def managerName (spec : Option String) : String :=
  match spec with
  | none => defaultManager
  | some s =>
    let name := s.toList.takeWhile (· != '@')
    if name.isEmpty then defaultManager else String.ofList name

def summarize (files : List FileRecord) (manifest : Option Manifest) : TechStack :=
  let languages := languagesOf files
  let tools := files.filterMap toolOf?
  match manifest with
  | none => { empty with languages := languages, buildTools := sortTexts tools }
  | some m =>
    let names := m.dependencyNames
    { languages := languages
      frameworks := matching names frameworkNames
      buildTools := sortTexts (tools ++ matching names buildToolNames)
      testing := matching names testingNames
      packageManager := some (managerName m.packageManager)
      dependencies := m.dependencies.keys
      devDependencies := m.devDependencies.keys }

end SourceDigest.TechStack
