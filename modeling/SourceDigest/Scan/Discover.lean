import SourceDigest.Files.System
import SourceDigest.Log
import SourceDigest.Priority
import SourceDigest.Scan.Filter

namespace SourceDigest.Scan

open Files (System DirectoryEntry Failure)

structure Options where
  maxFileSize : UInt64
  extraSkipped : List String
  deriving DecidableEq, Repr

def defaultMaxFileSize : UInt64 := 1048576

def Options.default : Options := ⟨defaultMaxFileSize, []⟩

inductive Error where
  | rootNotFound (root : Path)
  | rootNotDirectory (root : Path)
  | outsideRoot (path : Path)
  | failed (failure : Failure)
  deriving DecidableEq, Repr

def Error.message : Error → String
  | .rootNotFound root => "Project root does not exist: " ++ root.text
  | .rootNotDirectory root => "Project root is not a directory: " ++ root.text
  | .outsideRoot path => "Path is outside the project root: " ++ path.text
  | .failed f => f.message

def insertPath (p : Path) : List Path → List Path
  | [] => [p]
  | q :: rest =>
    if p.same q then q :: rest else if p.before q then p :: q :: rest else q :: insertPath p rest

def insertPaths (new found : List Path) : List Path := new.foldl (fun acc p => insertPath p acc) found

theorem exists_same_insertPath (p : Path) (l : List Path) : ∃ q ∈ insertPath p l, p.same q = true := by
  induction l with
  | nil => exact ⟨p, List.mem_singleton.2 rfl, Path.same_refl p⟩
  | cons q l ih =>
    simp only [insertPath]
    split
    · rename_i h
      exact ⟨q, List.mem_cons_self, h⟩
    · split
      · exact ⟨p, List.mem_cons_self, Path.same_refl p⟩
      · obtain ⟨r, hr, hp⟩ := ih
        exact ⟨r, List.mem_cons_of_mem _ hr, hp⟩

theorem mem_insertPath_of_mem {p x : Path} {l : List Path} (h : x ∈ l) : x ∈ insertPath p l := by
  induction l with
  | nil => cases h
  | cons q l ih =>
    simp only [insertPath]
    split
    · exact h
    · split
      · exact List.mem_cons_of_mem _ h
      · rcases List.mem_cons.1 h with rfl | h
        · exact List.mem_cons_self
        · exact List.mem_cons_of_mem _ (ih h)

def sortPaths (l : List Path) : List Path := l.mergeSort fun p q => !q.before p

variable (system : System) (options : Options)

def checkRoot (root : Path) : Except Error Unit :=
  if system.hasEntry root then
    match system.isDirectory root with
    | .error f => .error (.failed f)
    | .ok false => .error (.rootNotDirectory root)
    | .ok true =>
      match system.list root with
      | .error f => .error (.failed f)
      | .ok _ => .ok ()
  else .error (.rootNotFound root)

def filesOf (entries : List DirectoryEntry) : List Path :=
  (entries.filter fun e => e.kind == .file && isAnalyzable e.path).map (·.path)

def directoriesOf (atRoot : Bool) (entries : List DirectoryEntry) : List Path :=
  ((entries.filter fun e =>
    e.kind == .directory && !isSkippedDirectory options.extraSkipped atRoot e.name).map
      (·.path)).reverse

def concatLogged : List (Logged (List Path)) → Logged (List Path)
  | [] => ⟨[], []⟩
  | l :: ls => ⟨l.value ++ (concatLogged ls).value, l.log ++ (concatLogged ls).log⟩

def walk (root : Path) : Nat → Path → Logged (List Path)
  | 0, _ => ⟨[], []⟩
  | depth + 1, dir =>
    match system.list dir with
    | .error f => ⟨[], [warning ("Skipping unreadable directory: " ++ f.message)]⟩
    | .ok entries =>
      let below := concatLogged
        ((directoriesOf options (dir.same root) entries).map (walk root depth))
      ⟨filesOf entries ++ below.value, below.log⟩

def foundRecord (root : Path) (n : Nat) : LogRecord :=
  information ("Found " ++ toString n ++ " analyzable files under " ++ root.text)

def discover (root : Path) : Except Error (Logged (List Path)) :=
  match checkRoot system root with
  | .error e => .error e
  | .ok _ =>
    let walked := walk system options root system.depth root
    let files := sortPaths walked.value
    .ok ⟨files, walked.log ++ [foundRecord root files.length]⟩

def isBelowSkipped (root dir : Path) : Bool :=
  match Path.stripBase? root dir with
  | none => false
  | some [] => false
  | some (c :: rest) =>
    let skips (atRoot : Bool) (d : Component) : Bool :=
      d.name?.any fun n => isSkippedDirectory options.extraSkipped atRoot (Text.Utf8.decodeLossy n)
    skips true c || rest.any (skips false)

def resolveEntry (root entry : Path) : Path :=
  if entry.isAbsolute then entry else root.join entry.bytes

def filesOfEntry (root path : Path) : Except Error (Logged (List Path)) :=
  if path.climbs || !path.startsWith root then .error (.outsideRoot path)
  else
    match system.isDirectory path with
    | .error f => .error (.failed f)
    | .ok true =>
      if isBelowSkipped options root path then .ok ⟨[], []⟩
      else .ok (walk system options root system.depth path)
    | .ok false =>
      if path.parent?.any (isBelowSkipped options root) || !isAnalyzable path then .ok ⟨[], []⟩
      else .ok ⟨[path], []⟩

def filesOfEntries (root : Path) : List Path → List Path → Except Error (Logged (List Path))
  | [], found => .ok ⟨found, []⟩
  | entry :: entries, found =>
    match filesOfEntry system options root (resolveEntry root entry) with
    | .error e => .error e
    | .ok files =>
      match filesOfEntries root entries (insertPaths files.value found) with
      | .error e => .error e
      | .ok rest => .ok ⟨rest.value, files.log ++ rest.log⟩

def discoverEntries (root : Path) (entries : List Path) : Except Error (Logged (List Path)) :=
  match checkRoot system root with
  | .error e => .error e
  | .ok _ =>
    match filesOfEntries system options root entries [] with
    | .error e => .error e
    | .ok files =>
      .ok ⟨files.value, files.log ++ [foundRecord root files.value.length]⟩

def describeFile (root path : Path) : Logged (List FileRecord) :=
  match system.fileSize path with
  | .error f => ⟨[], [warning f.message]⟩
  | .ok size =>
    if size > options.maxFileSize then ⟨[], []⟩
    else ⟨[⟨Path.relativeTo root path, size, none⟩], []⟩

def describe (root : Path) : List Path → Logged (List FileRecord)
  | [] => ⟨[], []⟩
  | p :: ps =>
    let first := describeFile system options root p
    let rest := describe root ps
    ⟨first.value ++ rest.value, first.log ++ rest.log⟩

end SourceDigest.Scan
