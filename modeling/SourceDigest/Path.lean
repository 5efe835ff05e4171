import SourceDigest.Text.Split
import SourceDigest.Text.Utf8

namespace SourceDigest

open Text (splitOn joinWith splitLast)
open Text.Utf8 (encode decode? decodeLossy)

instance coeText : Coe String (List UInt8) := ⟨encode⟩

def slash : UInt8 := 0x2f

def dot : UInt8 := 0x2e

inductive Component where
  | root
  | current
  | parent
  | normal (name : List UInt8)
  deriving DecidableEq, Repr

namespace Component

def rank : Component → Nat
  | .root => 0
  | .current => 1
  | .parent => 2
  | .normal _ => 3

def before : Component → Component → Bool
  | .normal a, .normal b => a < b
  | a, b => a.rank < b.rank

def name? : Component → Option (List UInt8)
  | .normal n => some n
  | _ => none

def ofPart? (part : List UInt8) : Option Component :=
  if part = [] ∨ part = [dot] then none
  else if part = [dot, dot] then some .parent
  else some (.normal part)

end Component

/-- The bytes need not be those of a text. -/
structure Path where
  bytes : List UInt8
  deriving DecidableEq, Repr

namespace Path

def ofText (s : String) : Path := ⟨s⟩

def text (p : Path) : String := decodeLossy p.bytes

def isAbsolute (p : Path) : Bool := p.bytes.head? == some slash

def parts (p : Path) : List (List UInt8) := splitOn slash p.bytes

def components (p : Path) : List Component :=
  match p.parts with
  | [] => []
  | first :: rest =>
    let start : List Component :=
      if p.isAbsolute then [.root]
      else if first = [dot] then [.current]
      else (Component.ofPart? first).toList
    start ++ rest.filterMap Component.ofPart?

def same (p q : Path) : Bool := p.components = q.components

def startsWith (p base : Path) : Bool := base.components.isPrefixOf p.components

def stripBase? (base p : Path) : Option (List Component) :=
  if p.startsWith base then some (p.components.drop base.components.length) else none

def componentsBefore : List Component → List Component → Bool
  | [], [] => false
  | [], _ :: _ => true
  | _ :: _, [] => false
  | a :: as, b :: bs => if a = b then componentsBefore as bs else a.before b

def before (p q : Path) : Bool := componentsBefore p.components q.components

def join (p : Path) (q : List UInt8) : Path :=
  if q.head? = some slash then ⟨q⟩
  else if p.bytes = [] ∨ p.bytes.getLast? = some slash then ⟨p.bytes ++ q⟩
  else ⟨p.bytes ++ slash :: q⟩

def fileName? (p : Path) : Option (List UInt8) :=
  match p.components.getLast? with
  | some (.normal n) => some n
  | _ => none

def isIdle (part : List UInt8) : Bool := part == [] || part == [dot]

def parent? (p : Path) : Option Path :=
  match p.parts with
  | [] => none
  | first :: rest =>
    let drop (l : List (List UInt8)) : List (List UInt8) := (l.reverse.dropWhile isIdle).reverse
    match drop rest with
    | [] => if p.isAbsolute || first == [] then none else some ⟨[]⟩
    | kept =>
      match drop kept.dropLast with
      | [] => if p.isAbsolute then some ⟨[slash]⟩ else some ⟨first⟩
      | l => some ⟨joinWith [slash] (first :: l)⟩

def extension? (p : Path) : Option (List UInt8) :=
  match p.fileName? with
  | none => none
  | some n =>
    match splitLast dot n with
    | (none, _) => none
    | (some [], _) => none
    | (some _, e) => some e

def relativeTo (root p : Path) : String :=
  let rest := (stripBase? root p).getD p.components
  String.ofList
    (joinWith ['/'] ((rest.filterMap Component.name?).map fun n => (decodeLossy n).toList))

def climbs (p : Path) : Bool := p.components.contains .parent

theorem same_iff {p q : Path} : p.same q = true ↔ p.components = q.components := by
  simp [same]

theorem same_refl (p : Path) : p.same p = true := by
  simp [same]

theorem startsWith_refl (p : Path) : p.startsWith p = true := by
  simp [startsWith]

end Path

def depthOf (relative : String) : Nat :=
  ((splitOn '/' relative.toList).filter (!·.isEmpty)).length - 1

def lastSegment (relative : String) : String :=
  String.ofList (splitLast '/' relative.toList).2

end SourceDigest
