import SourceDigest.Files.System
import SourceDigest.Log
import SourceDigest.Priority
import SourceDigest.Tokens

namespace SourceDigest.Scan

open Files (System)

def delimiter : String := "================"

def formatBlock (relative content : String) : String :=
  delimiter ++ "\nFile: " ++ relative ++ "\n" ++ delimiter ++ "\n" ++ content ++ "\n\n"

structure Piece where
  file : FileRecord
  source : String
  cost : Nat
  deriving DecidableEq, Repr

def Piece.block (p : Piece) : String := formatBlock p.file.path p.source

structure Collection where
  content : String
  files : List FileRecord
  sources : List String
  totalTokens : Nat
  deriving DecidableEq, Repr

structure NothingCollected where
  considered : Nat
  ceiling : UInt64
  deriving DecidableEq, Repr

def NothingCollected.message (e : NothingCollected) : String :=
  "No content collected: " ++ toString e.considered ++ " candidate files, none fit within "
    ++ toString e.ceiling.toNat ++ " tokens"

variable (system : System) (counter : TokenCounter)

def measure (root : Path) (file : FileRecord) : Except LogRecord Piece :=
  match system.read (root.join file.path) with
  | .error f => .error (warning ("Skipping unreadable file: " ++ f.message))
  | .ok text =>
    match counter.count (formatBlock file.path text) with
    | .error reason =>
      .error (warning ("Skipping " ++ file.path ++ ": Token counting failed: " ++ reason))
    | .ok cost => .ok ⟨file, text, cost⟩

def ceilingRecord (piece : Piece) (total : Nat) (ceiling : UInt64) (left : Nat) : LogRecord :=
  information ("Token ceiling reached at " ++ piece.file.path ++ " (" ++ toString total ++ " + "
    ++ toString piece.cost ++ " > " ++ toString ceiling.toNat ++ "); " ++ toString left
    ++ " files not included")

def takePieces (root : Path) (ceiling : UInt64) (considered : Nat) :
    List FileRecord → Nat → Nat → Logged (List Piece)
  | [], _, _ => ⟨[], []⟩
  | file :: files, total, taken =>
    match measure system counter root file with
    | .error record =>
      let rest := takePieces root ceiling considered files total taken
      ⟨rest.value, record :: rest.log⟩
    | .ok piece =>
      if total + piece.cost > ceiling.toNat then
        ⟨[], [ceilingRecord piece total ceiling (considered - taken)]⟩
      else
        let rest := takePieces root ceiling considered files (total + piece.cost) (taken + 1)
        ⟨piece :: rest.value, rest.log⟩

def totalCost (pieces : List Piece) : Nat := pieces.foldr (fun p n => p.cost + n) 0

def Collection.ofPieces (pieces : List Piece) : Collection where
  content := String.join (pieces.map Piece.block)
  files := pieces.map (·.file)
  sources := pieces.map (·.source)
  totalTokens := totalCost pieces

def collectedRecord (c : Collection) (considered : Nat) (ceiling : UInt64) : LogRecord :=
  information ("Collected " ++ toString c.files.length ++ " of " ++ toString considered
    ++ " files (" ++ toString c.totalTokens ++ " tokens, ceiling " ++ toString ceiling.toNat ++ ")")

def collect (root : Path) (ceiling : UInt64) (ordered : List FileRecord) :
    Except NothingCollected (Logged Collection) :=
  let taken := takePieces system counter root ceiling ordered.length ordered 0 0
  if taken.value.isEmpty then .error ⟨ordered.length, ceiling⟩
  else
    let collection := Collection.ofPieces taken.value
    .ok ⟨collection, taken.log ++ [collectedRecord collection ordered.length ceiling]⟩

theorem takePieces_cost_le (root : Path) (ceiling : UInt64) (considered : Nat)
    (files : List FileRecord) (total taken : Nat) (h : total ≤ ceiling.toNat) :
    total + totalCost (takePieces system counter root ceiling considered files total taken).value
      ≤ ceiling.toNat := by
  induction files generalizing total taken with
  | nil => exact h
  | cons file files ih =>
    simp only [takePieces]
    split
    · exact ih total taken h
    · split
      · exact h
      · rename_i piece _ hle
        have := ih (total + piece.cost) (taken + 1) (Nat.not_lt.1 hle)
        simp only [totalCost, List.foldr_cons] at this ⊢
        omega

def pieces (root : Path) (files : List FileRecord) : List Piece :=
  files.filterMap fun file => (measure system counter root file).toOption

theorem takePieces_isPrefix (root : Path) (ceiling : UInt64) (considered : Nat)
    (files : List FileRecord) (total taken : Nat) :
    (takePieces system counter root ceiling considered files total taken).value
      <+: pieces system counter root files := by
  induction files generalizing total taken with
  | nil => exact List.nil_prefix
  | cons file files ih =>
    simp only [takePieces, pieces, List.filterMap_cons]
    split
    · rename_i hm
      rw [hm]
      exact ih total taken
    · rename_i piece hm
      rw [hm]
      split
      · exact List.nil_prefix
      · exact List.cons_prefix_cons.2 ⟨rfl, ih (total + piece.cost) (taken + 1)⟩

end SourceDigest.Scan
