import SourceDigest.Dict
import SourceDigest.Files.System

namespace SourceDigest.Files

structure Memory where
  files : List (Path × String)
  unreadable : List Path

namespace Memory

def empty : Memory := ⟨[], []⟩

def putFile (p : Path) (content : String) : List (Path × String) → List (Path × String)
  | [] => [(p, content)]
  | (q, old) :: rest =>
    if p.same q then (q, content) :: rest
    else if p.before q then (p, content) :: (q, old) :: rest
    else (q, old) :: putFile p content rest

def withFile (m : Memory) (p : Path) (content : String) : Memory :=
  { m with files := putFile p content m.files }

def withUnreadable (m : Memory) (p : Path) : Memory := { m with unreadable := p :: m.unreadable }

def ofFiles (files : List (Path × String)) (unreadable : List Path) : Memory :=
  ⟨files.foldl (fun acc f => putFile f.1 f.2 acc) [], unreadable⟩

def file? (m : Memory) (p : Path) : Option String :=
  (m.files.find? fun f => f.1.same p).map Prod.snd

def hasDirectory (m : Memory) (p : Path) : Bool :=
  m.files.any fun f => !f.1.same p && f.1.startsWith p

def isUnreadable (m : Memory) (p : Path) : Bool := m.unreadable.any fun q => q.same p

def componentName : Component → String
  | .root => "/"
  | .current => "."
  | .parent => ".."
  | .normal n => Text.Utf8.decodeLossy n

def addChild (name : String) (kind : Kind) (children : Dict Kind) : Dict Kind :=
  if children.contains name then children else children.insert name kind

def children (m : Memory) (p : Path) : Dict Kind :=
  m.files.foldl (fun acc f =>
    match Path.stripBase? p f.1 with
    | some [c] => addChild (componentName c) .file acc
    | some (c :: _) => addChild (componentName c) .directory acc
    | _ => acc) .empty

def read (m : Memory) (p : Path) : Except Failure String :=
  if m.isUnreadable p then .error ⟨.read, p, .forbidden⟩
  else
    match m.file? p with
    | some content => .ok content
    | none => .error ⟨.read, p, .missing⟩

def list (m : Memory) (p : Path) : Except Failure (List DirectoryEntry) :=
  if m.isUnreadable p then .error ⟨.list, p, .forbidden⟩
  else if m.hasDirectory p then
    .ok ((m.children p).entries.map fun (name, kind) => ⟨p.join name, name, kind⟩)
  else .error ⟨.list, p, .missing⟩

def isDirectory (m : Memory) (p : Path) : Except Failure Bool :=
  if m.hasDirectory p then .ok true
  else if (m.file? p).isSome then .ok false
  else .error ⟨.isDirectory, p, .missing⟩

def hasEntry (m : Memory) (p : Path) : Bool := (m.file? p).isSome || m.hasDirectory p

def fileSize (m : Memory) (p : Path) : Except Failure UInt64 :=
  match m.file? p with
  | some content => .ok (UInt64.ofNat content.utf8ByteSize)
  | none => .error ⟨.fileSize, p, .missing⟩

def depth (m : Memory) : Nat :=
  m.files.foldl (fun d f => max d f.1.components.length) 0 + 1

def system (m : Memory) : System :=
  ⟨m.read, m.list, m.isDirectory, m.hasEntry, m.fileSize, m.depth⟩

end Memory

end SourceDigest.Files
