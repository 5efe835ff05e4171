import SourceDigest.Path
import SourceDigest.Text.Utf8

namespace SourceDigest.Files

inductive Errno where
  | noEntry
  | noPermission
  | exists
  | notDirectory
  | isDirectory
  | nameTooLong
  | notEmpty
  | linkLoop
  deriving DecidableEq, Repr

def Errno.number : Errno → Nat
  | .noEntry => 2
  | .noPermission => 13
  | .exists => 17
  | .notDirectory => 20
  | .isDirectory => 21
  | .nameTooLong => 36
  | .notEmpty => 39
  | .linkLoop => 40

def Errno.text : Errno → String
  | .noEntry => "No such file or directory"
  | .noPermission => "Permission denied"
  | .exists => "File exists"
  | .notDirectory => "Not a directory"
  | .isDirectory => "Is a directory"
  | .nameTooLong => "File name too long"
  | .notEmpty => "Directory not empty"
  | .linkLoop => "Too many levels of symbolic links"

def Errno.kind : Errno → String
  | .noEntry => "entity not found"
  | .noPermission => "permission denied"
  | .exists => "entity already exists"
  | .notDirectory => "not a directory"
  | .isDirectory => "is a directory"
  | .nameTooLong => "invalid filename"
  | .notEmpty => "directory not empty"
  | .linkLoop => "filesystem loop or indirection limit (e.g. symlink loop)"

inductive Cause where
  | missing
  | forbidden
  | nul
  | system (e : Errno)
  | notText (s : Text.Utf8.Stop)
  | other (text : String)
  deriving DecidableEq, Repr

def Cause.message : Cause → String
  | .missing => "no such file or directory"
  | .forbidden => "permission denied"
  | .nul => "file name contained an unexpected NUL byte"
  | .system e => e.text ++ " (os error " ++ toString e.number ++ ")"
  | .notText s => s.message
  | .other text => text

def Cause.kind : Cause → String
  | .missing => "entity not found"
  | .forbidden => "permission denied"
  | .nul => "invalid input parameter"
  | .system e => e.kind
  | .notText _ => "invalid data"
  | .other _ => "other error"

inductive Operation where
  | read
  | list
  | isDirectory
  | fileSize
  deriving DecidableEq, Repr

def Operation.name : Operation → String
  | .read => "read_file"
  | .list => "read_dir"
  | .isDirectory => "is_directory"
  | .fileSize => "file_size"

structure Failure where
  operation : Operation
  path : Path
  cause : Cause
  deriving DecidableEq, Repr

def Failure.message (f : Failure) : String :=
  f.operation.name ++ " failed for " ++ f.path.text ++ ": " ++ f.cause.message

inductive Kind where
  | file
  | directory
  | other
  deriving DecidableEq, Repr

def Kind.name : Kind → String
  | .file => "File"
  | .directory => "Directory"
  | .other => "Other"

structure DirectoryEntry where
  path : Path
  name : String
  kind : Kind
  deriving DecidableEq, Repr

/-- The questions that a scan asks of a file system. No chain of directories, each listed by the one
before it, is longer than the depth. -/
structure System where
  read : Path → Except Failure String
  list : Path → Except Failure (List DirectoryEntry)
  isDirectory : Path → Except Failure Bool
  hasEntry : Path → Bool
  fileSize : Path → Except Failure UInt64
  depth : Nat

end SourceDigest.Files
