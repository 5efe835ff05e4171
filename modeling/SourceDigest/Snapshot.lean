import SourceDigest.Digest
import SourceDigest.Files.Disk
import SourceDigest.Json.Printer

namespace SourceDigest

open Files (Disk Cause)

namespace Snapshot

def directoryName : List UInt8 := Text.Utf8.encode ".codebrief"

def fileName : List UInt8 := Text.Utf8.encode "project-context.json"

def path (directory : Option Path) (root : Path) : Path :=
  (directory.getD (root.join directoryName)).join fileName

def temporary (path : Path) : Path := ⟨path.bytes ++ Text.Utf8.encode ".tmp"⟩

structure Failure where
  path : Path
  cause : Cause
  deriving DecidableEq, Repr

def Failure.message (f : Failure) : String :=
  "Failed to write snapshot " ++ f.path.text ++ ": " ++ f.cause.message

def render (d : Digest) : String := d.toJson.pretty

def prepare (path : Path) (disk : Disk) : Except Failure Unit × Disk :=
  match path.parent? with
  | none => (.ok (), disk)
  | some parent =>
    match disk.ensureDirectory parent with
    | (.ok _, disk) => (.ok (), disk)
    | (.error c, disk) => (.error ⟨parent, c⟩, disk)

def write (directory : Option Path) (disk : Disk) (d : Digest) :
    Except Failure Path × Disk :=
  let path := path directory ⟨d.root⟩
  match prepare path disk with
  | (.error f, prepared) => (.error f, prepared)
  | (.ok _, prepared) =>
    match prepared.write (temporary path) (Text.Utf8.encode (render d)) with
    | .error c => (.error ⟨temporary path, c⟩, prepared)
    | .ok written =>
      match written.rename (temporary path) path with
      | .error c => (.error ⟨path, c⟩, written)
      | .ok moved => (.ok path, moved)

end Snapshot

end SourceDigest
