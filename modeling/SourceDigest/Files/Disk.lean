import SourceDigest.Dict
import SourceDigest.Files.System

namespace SourceDigest.Files

open Text (splitOn joinWith)
open Text.Utf8 (decodeLossy)

inductive Item where
  | file (content : List UInt8)
  | link (target : List UInt8)
  | directory (entries : List (List UInt8 × Item))
  deriving Repr, Inhabited

namespace Item

def emptyDirectory : Item := .directory []

def isDirectory : Item → Bool
  | .directory _ => true
  | _ => false

def kind : Item → Kind
  | .file _ => .file
  | .link _ => .other
  | .directory _ => .directory

def at? : List (List UInt8) → Item → Option Item
  | [], i => some i
  | n :: ns, .directory entries => (lookupEntry n entries).bind (at? ns)
  | _ :: _, _ => none

def put : List (List UInt8) → Item → Item → Item
  | [], _, new => new
  | n :: ns, .directory entries, new =>
    .directory (putEntry n (put ns ((lookupEntry n entries).getD emptyDirectory) new) entries)
  | _ :: _, i, _ => i

def eraseEntry (n : List UInt8) (entries : List (List UInt8 × Item)) :
    List (List UInt8 × Item) :=
  entries.filter fun e => e.1 != n

def erase : List (List UInt8) → Item → Item
  | [n], .directory entries => .directory (eraseEntry n entries)
  | n :: m :: ns, .directory entries =>
    match lookupEntry n entries with
    | some i => .directory (putEntry n (erase (m :: ns) i) entries)
    | none => .directory entries
  | _, i => i

mutual

def height : Item → Nat
  | .file _ => 1
  | .link _ => 1
  | .directory entries => heightBelow entries + 1

def heightBelow : List (List UInt8 × Item) → Nat
  | [] => 0
  | (_, i) :: es => max (height i) (heightBelow es)

end

mutual

def paths (above : String) : Item → List String
  | .directory entries => pathsBelow above entries
  | _ => []

def pathsBelow (above : String) : List (List UInt8 × Item) → List String
  | [] => []
  | (n, i) :: es =>
    let here := above ++ decodeLossy n ++ (if i.isDirectory then "/" else "")
    here :: paths here i ++ pathsBelow above es

end

mutual

def files (above : List (List UInt8)) : Item → List (List (List UInt8) × List UInt8)
  | .file content => [(above, content)]
  | .link _ => []
  | .directory entries => filesBelow above entries

def filesBelow (above : List (List UInt8)) :
    List (List UInt8 × Item) → List (List (List UInt8) × List UInt8)
  | [] => []
  | (n, i) :: es => files (above ++ [n]) i ++ filesBelow above es

end

theorem at?_nil (i : Item) : at? [] i = some i := by
  cases i <;> rfl

theorem at?_put_self {ns : List (List UInt8)} {i new old : Item} (h : at? ns i = some old) :
    at? ns (put ns i new) = some new := by
  induction ns generalizing i with
  | nil => exact at?_nil _
  | cons n ns ih =>
    cases i with
    | file c => cases h
    | link t => cases h
    | directory entries =>
      simp only [at?, Option.bind_eq_some_iff] at h
      obtain ⟨j, hj, hold⟩ := h
      simp [put, at?, lookupEntry_putEntry, hj, ih hold]

theorem at?_put_of_not_prefix {ns ms : List (List UInt8)} {i new : Item} (h : ¬ ns <+: ms)
    (hm : ¬ ms <+: ns) : at? ms (put ns i new) = at? ms i := by
  induction ns generalizing i ms with
  | nil => exact absurd List.nil_prefix h
  | cons n ns ih =>
    cases ms with
    | nil => exact absurd List.nil_prefix hm
    | cons m ms =>
      cases i with
      | file c => rfl
      | link t => rfl
      | directory entries =>
        simp only [put, at?, lookupEntry_putEntry]
        split
        · rename_i hnm
          subst hnm
          rw [List.cons_prefix_cons] at h hm
          have hi := fun i => ih (i := i) (fun hp => h ⟨rfl, hp⟩) (fun hp => hm ⟨rfl, hp⟩)
          cases hl : lookupEntry n entries with
          | some j => simp [hi]
          | none =>
            have hne : ms ≠ [] := fun he => hm ⟨rfl, he ▸ List.nil_prefix⟩
            obtain ⟨x, xs, rfl⟩ := List.exists_cons_of_ne_nil hne
            simp [hi, emptyDirectory, at?, lookupEntry]
        · rfl

end Item

structure Disk where
  tree : Item
  working : List (List UInt8)
  deriving Repr

inductive Sought where
  | entry
  | target
  | newDirectory
  | newFile
  deriving DecidableEq, Repr

def Sought.behindLinks : Sought → Bool
  | .entry | .newDirectory => false
  | .target | .newFile => true

inductive Found where
  | item (names : List (List UInt8)) (i : Item)
  | absent (directory : List (List UInt8)) (name : List UInt8)
  deriving Repr

namespace Disk

def maxNameBytes : Nat := 255

def maxPathBytes : Nat := 4095

def maxLinks : Nat := 40

def partsOf (s : List UInt8) : List (List UInt8) :=
  let parts := (splitOn slash s).filter (!·.isEmpty)
  parts ++ (if s.getLast? = some slash && !parts.isEmpty then [[]] else [])

/-- Follows names from a directory on. A link is followed where something comes behind it, and at
the end as well if asked for; at most so many links are followed. -/
def walk (tree : Item) (sought : Sought) (links : Nat) (here todo : List (List UInt8)) :
    Except Errno Found :=
  match todo with
  | [] =>
    match tree.at? here with
    | some i => .ok (.item here i)
    | none => .error .noEntry
  | name :: rest =>
    match tree.at? here with
    | some (.directory entries) =>
      if name.isEmpty || name = [dot] then walk tree sought links here rest
      else if name = [dot, dot] then walk tree sought links here.dropLast rest
      else if sought = .newFile && rest = [[]] then .error .isDirectory
      else if maxNameBytes < name.length then .error .nameTooLong
      else
        match lookupEntry name entries with
        | none => if rest.isEmpty then .ok (.absent here name) else .error .noEntry
        | some (.link target) =>
          if rest.isEmpty && !sought.behindLinks then .ok (.item (here ++ [name]) (.link target))
          else
            match links with
            | 0 => .error .linkLoop
            | links + 1 =>
              if target.isEmpty then .error .noEntry
              else
                let start := if target.head? = some slash then [] else here
                walk tree sought links start (partsOf target ++ rest)
        | some _ => walk tree sought links (here ++ [name]) rest
    | some _ => .error .notDirectory
    | none => .error .noEntry
  termination_by (links, todo.length)

def start (d : Disk) (p : Path) : List (List UInt8) := if p.isAbsolute then [] else d.working

def find (d : Disk) (sought : Sought) (p : Path) : Except Cause Found :=
  if p.bytes.contains 0 then .error .nul
  else if p.bytes.isEmpty then .error (.system .noEntry)
  else if maxPathBytes < p.bytes.length then .error (.system .nameTooLong)
  else
    let parts := (partsOf p.bytes).filter fun n => sought != .newDirectory || !n.isEmpty
    match walk d.tree sought maxLinks (d.start p) parts with
    | .error e => .error (.system e)
    | .ok f => .ok f

def item (d : Disk) (p : Path) : Except Cause (List (List UInt8) × Item) :=
  match d.find .target p with
  | .error c => .error c
  | .ok (.absent _ _) => .error (.system .noEntry)
  | .ok (.item names i) => .ok (names, i)

def hasEntry (d : Disk) (p : Path) : Bool := (d.item p).toOption.isSome

def isDirectory (d : Disk) (p : Path) : Bool :=
  match d.item p with
  | .ok (_, i) => i.isDirectory
  | .error _ => false

def isFile (d : Disk) (p : Path) : Bool :=
  match d.item p with
  | .ok (_, .file _) => true
  | _ => false

def readBytes (d : Disk) (p : Path) : Except Cause (List UInt8) :=
  match d.item p with
  | .error c => .error c
  | .ok (_, .file content) => .ok content
  | .ok _ => .error (.system .isDirectory)

def readText (d : Disk) (p : Path) : Except Cause String :=
  match d.readBytes p with
  | .error c => .error c
  | .ok bytes =>
    match Text.Utf8.decode bytes with
    | .ok s => .ok s
    | .error s => .error (.notText s)

def list (d : Disk) (p : Path) : Except Cause (List DirectoryEntry) :=
  match d.item p with
  | .error c => .error c
  | .ok (_, .directory entries) =>
    let listed := entries.map fun (name, i) => ⟨p.join name, decodeLossy name, i.kind⟩
    .ok (listed.mergeSort fun e f => e.name ≤ f.name)
  | .ok _ => .error (.system .notDirectory)

def directorySize : UInt64 := 4096

def fileSize (d : Disk) (p : Path) : Except Cause UInt64 :=
  match d.item p with
  | .error c => .error c
  | .ok (_, .file content) => .ok (UInt64.ofNat content.length)
  | .ok _ => .ok directorySize

def pathOf (names : List (List UInt8)) : Path := ⟨slash :: joinWith [slash] names⟩

def canonical (d : Disk) (p : Path) : Except Cause Path :=
  match d.item p with
  | .error c => .error c
  | .ok (names, _) => .ok (pathOf names)

def workingPath (d : Disk) : Path := pathOf d.working

def withItem (d : Disk) (names : List (List UInt8)) (i : Item) : Disk :=
  { d with tree := d.tree.put names i }

def makeDirectory (d : Disk) (p : Path) : Except Cause Disk :=
  match d.find .newDirectory p with
  | .error c => .error c
  | .ok (.item _ _) => .error (.system .exists)
  | .ok (.absent dir name) => .ok (d.withItem (dir ++ [name]) .emptyDirectory)

def makeDirectories : Nat → Disk → Path → Except Cause Unit × Disk
  | 0, d, _ => (.ok (), d)
  | n + 1, d, p =>
    let settle (d : Disk) (c : Cause) : Except Cause Unit × Disk :=
      (if d.isDirectory p then .ok () else .error c, d)
    if p.bytes.isEmpty then (.ok (), d)
    else
      match d.makeDirectory p with
      | .ok d => (.ok (), d)
      | .error (.system .noEntry) =>
        match p.parent? with
        | none => (.error (.other "failed to create whole tree"), d)
        | some parent =>
          match makeDirectories n d parent with
          | (.error c, d) => (.error c, d)
          | (.ok _, d) =>
            match d.makeDirectory p with
            | .ok d => (.ok (), d)
            | .error c => settle d c
      | .error c => settle d c

def ensureDirectory (d : Disk) (p : Path) : Except Cause Unit × Disk :=
  makeDirectories (p.components.length + 1) d p

def write (d : Disk) (p : Path) (content : List UInt8) : Except Cause Disk :=
  match d.find .newFile p with
  | .error c => .error c
  | .ok (.item names (.file _)) => .ok (d.withItem names (.file content))
  | .ok (.item _ _) => .error (.system .isDirectory)
  | .ok (.absent dir name) => .ok (d.withItem (dir ++ [name]) (.file content))

def rename (d : Disk) (source target : Path) : Except Cause Disk :=
  match d.find .entry source with
  | .error c => .error c
  | .ok (.absent _ _) => .error (.system .noEntry)
  | .ok (.item _ (.directory _)) => .error (.system .isDirectory)
  | .ok (.item old i) =>
    let move (new : List (List UInt8)) : Disk :=
      if new = old then d else { d with tree := (d.tree.erase old).put new i }
    match d.find .entry target with
    | .error c => .error c
    | .ok (.item _ (.directory _)) => .error (.system .isDirectory)
    | .ok (.item new _) => .ok (move new)
    | .ok (.absent dir name) => .ok (move (dir ++ [name]))

def filesBeside (d old : Disk) : List (Path × List UInt8) :=
  let isNew (f : List (List UInt8) × List UInt8) : Bool :=
    match old.tree.at? f.1 with
    | some (.file content) => content != f.2
    | _ => true
  ((d.tree.files []).filter isNew).map fun f => (pathOf f.1, f.2)

def system (d : Disk) : System where
  read p := (d.readText p).mapError (⟨.read, p, ·⟩)
  list p := (d.list p).mapError (⟨.list, p, ·⟩)
  isDirectory p := ((d.item p).map fun (_, i) => i.isDirectory).mapError (⟨.isDirectory, p, ·⟩)
  hasEntry p := d.hasEntry p
  fileSize p := (d.fileSize p).mapError (⟨.fileSize, p, ·⟩)
  depth := d.tree.height + 1

end Disk

end SourceDigest.Files
