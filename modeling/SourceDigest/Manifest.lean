import SourceDigest.Json.Decode

namespace SourceDigest

open Json (Value Record Field Decoding)

structure Manifest where
  name : Option String
  version : Option String
  description : Option String
  packageManager : Option String
  scripts : Dict String
  dependencies : Dict String
  devDependencies : Dict String
  peerDependencies : Dict String
  deriving DecidableEq

namespace Manifest

def empty : Manifest := ⟨none, none, none, none, .empty, .empty, .empty, .empty⟩

instance : Inhabited Manifest := ⟨empty⟩

def dependencyNames (m : Manifest) : List String :=
  sortTexts (m.dependencies.keys ++ m.devDependencies.keys ++ m.peerDependencies.keys)

def decodeTextOption : Value → Decoding (Option String) := Value.decodeOption Value.decodeText

def decodeTextDict : Value → Decoding (Dict String) := Value.decodeDict Value.decodeText

def record : Record Manifest :=
  ⟨"PackageJson", [
    .of "name" false decodeTextOption fun m v => { m with name := v },
    .of "version" false decodeTextOption fun m v => { m with version := v },
    .of "description" false decodeTextOption fun m v => { m with description := v },
    .of "packageManager" false decodeTextOption fun m v => { m with packageManager := v },
    .of "scripts" false decodeTextDict fun m v => { m with scripts := v },
    .of "dependencies" false decodeTextDict fun m v => { m with dependencies := v },
    .of "devDependencies" false decodeTextDict fun m v => { m with devDependencies := v },
    .of "peerDependencies" false decodeTextDict fun m v => { m with peerDependencies := v }]⟩

def ofJson (v : Value) : Decoding Manifest := record.decode empty v

def toJson (m : Manifest) : Value :=
  .object (Json.memberIfSome "name" .string m.name
    ++ Json.memberIfSome "version" .string m.version
    ++ Json.memberIfSome "description" .string m.description
    ++ Json.memberIfSome "packageManager" .string m.packageManager
    ++ [("scripts", Value.ofTextDict m.scripts),
      ("dependencies", Value.ofTextDict m.dependencies),
      ("devDependencies", Value.ofTextDict m.devDependencies),
      ("peerDependencies", Value.ofTextDict m.peerDependencies)])

end Manifest

end SourceDigest
