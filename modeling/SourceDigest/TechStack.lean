import SourceDigest.Json.Decode

namespace SourceDigest

open Json (Value Record Field Decoding)

structure TechStack where
  languages : List String
  frameworks : List String
  buildTools : List String
  testing : List String
  packageManager : Option String
  dependencies : List String
  devDependencies : List String
  deriving DecidableEq, Repr

namespace TechStack

def empty : TechStack := ⟨[], [], [], [], none, [], []⟩

instance : Inhabited TechStack := ⟨empty⟩

def record : Record TechStack :=
  ⟨"TechStack", [
    .of "languages" false Value.decodeTexts fun t l => { t with languages := l },
    .of "frameworks" false Value.decodeTexts fun t l => { t with frameworks := l },
    .of "build_tools" false Value.decodeTexts fun t l => { t with buildTools := l },
    .of "testing" false Value.decodeTexts fun t l => { t with testing := l },
    .of "package_manager" false (Value.decodeOption Value.decodeText)
      fun t p => { t with packageManager := p },
    .of "dependencies" false Value.decodeTexts fun t l => { t with dependencies := l },
    .of "dev_dependencies" false Value.decodeTexts fun t l => { t with devDependencies := l }]⟩

def ofJson (v : Value) : Decoding TechStack := record.decode empty v

def toJson (t : TechStack) : Value :=
  .object ([("languages", .ofTexts t.languages), ("frameworks", .ofTexts t.frameworks),
      ("build_tools", .ofTexts t.buildTools), ("testing", .ofTexts t.testing)]
    ++ Json.memberIfSome "package_manager" .string t.packageManager
    ++ [("dependencies", .ofTexts t.dependencies),
      ("dev_dependencies", .ofTexts t.devDependencies)])

end TechStack

end SourceDigest
