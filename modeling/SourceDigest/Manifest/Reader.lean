import SourceDigest.Files.System
import SourceDigest.Json.Typed
import SourceDigest.Log
import SourceDigest.Manifest

namespace SourceDigest.Manifest

open Json (TextRecord TextField readText readOption readDict)
open Files (System)

def textRecord : TextRecord Manifest :=
  ⟨"PackageJson", [
    .of "name" false (readOption readText) fun m v => { m with name := v },
    .of "version" false (readOption readText) fun m v => { m with version := v },
    .of "description" false (readOption readText) fun m v => { m with description := v },
    .of "packageManager" false (readOption readText) fun m v => { m with packageManager := v },
    .of "scripts" false (readDict readText) fun m v => { m with scripts := v },
    .of "dependencies" false (readDict readText) fun m v => { m with dependencies := v },
    .of "devDependencies" false (readDict readText) fun m v => { m with devDependencies := v },
    .of "peerDependencies" false (readDict readText) fun m v => { m with peerDependencies := v }]⟩

def parse (text : String) : Except Json.Fault Manifest := textRecord.parse empty text.toList

def fileName : String := "package.json"

def read (system : System) (root : Path) : Logged (Option Manifest) :=
  let path := root.join fileName
  if system.hasEntry path then
    match system.read path with
    | .error f => ⟨none, [warning ("Ignoring manifest: " ++ f.message)]⟩
    | .ok text =>
      match parse text with
      | .ok m => ⟨some m, []⟩
      | .error f =>
        ⟨none, [warning ("Ignoring malformed " ++ path.text ++ ": " ++ f.message text.toList)]⟩
  else ⟨none, []⟩

end SourceDigest.Manifest
