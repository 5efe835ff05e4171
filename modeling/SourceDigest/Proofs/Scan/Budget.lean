import Mathlib.Algebra.Ring.Nat
import Mathlib.Data.List.Basic
import SourceDigest.Scan.Collect

namespace SourceDigest.Scan

open Files (System)

variable (system : System) (counter : TokenCounter)

def legible? (root : Path) (file : FileRecord) : Option Piece := do
  let text ← (system.read (root.join file.path)).toOption
  let cost ← (counter.count (formatBlock file.path text)).toOption
  some ⟨file, text, cost⟩

structure FillsBudget (ceiling : Nat) (all taken : List Piece) : Prop where
  run : taken <+: all
  within : totalCost taken ≤ ceiling
  longest : ∀ more, more <+: all → totalCost more ≤ ceiling → more <+: taken

theorem measure_toOption (root : Path) (file : FileRecord) :
    (measure system counter root file).toOption = legible? system counter root file := by
  unfold measure legible?
  cases system.read (root.join file.path) with
  | error f => rfl
  | ok text =>
    cases hc : counter.count (formatBlock file.path text) with
    | error reason => simp [Except.toOption, hc]
    | ok cost => simp [Except.toOption, hc]

theorem pieces_eq_filterMap (root : Path) (files : List FileRecord) :
    pieces system counter root files = files.filterMap (legible? system counter root) := by
  unfold pieces
  congr 1
  funext file
  exact measure_toOption system counter root file

theorem legible?_eq_some_iff {root : Path} {file : FileRecord} {p : Piece} :
    legible? system counter root file = some p ↔
      ∃ text cost, system.read (root.join file.path) = .ok text ∧
        counter.count (formatBlock file.path text) = .ok cost ∧ p = ⟨file, text, cost⟩ := by
  unfold legible?
  cases hread : system.read (root.join file.path) with
  | error f => simp [Except.toOption]
  | ok text =>
    cases hcount : counter.count (formatBlock file.path text) with
    | error reason => simp [Except.toOption, hcount]
    | ok cost => simp [Except.toOption, hcount, eq_comm]

theorem read_of_mem_takePieces {root : Path} {ceiling : UInt64} {considered total taken : Nat}
    {files : List FileRecord} {p : Piece}
    (h : p ∈ (takePieces system counter root ceiling considered files total taken).value) :
    system.read (root.join p.file.path) = .ok p.source := by
  have hp := (takePieces_isPrefix system counter root ceiling considered files total taken).subset h
  rw [pieces_eq_filterMap, List.mem_filterMap] at hp
  obtain ⟨file, -, hfile⟩ := hp
  obtain ⟨text, cost, hread, -, rfl⟩ := (legible?_eq_some_iff system counter).1 hfile
  exact hread

theorem totalCost_cons (p : Piece) (ps : List Piece) :
    totalCost (p :: ps) = p.cost + totalCost ps := rfl

theorem totalCost_eq_sum (ps : List Piece) : totalCost ps = (ps.map (·.cost)).sum := by
  induction ps with
  | nil => rfl
  | cons p ps ih => rw [totalCost_cons, ih, List.map_cons, List.sum_cons]

theorem totalCost_le_of_prefix {run all : List Piece} (h : run <+: all) :
    totalCost run ≤ totalCost all := by
  obtain ⟨rest, rfl⟩ := h
  rw [totalCost_eq_sum, totalCost_eq_sum, List.map_append, List.sum_append]
  exact Nat.le_add_right _ _

def runningTotal (run : List Piece) : UInt64 :=
  run.foldl (fun total p => total + UInt64.ofNat p.cost) 0

theorem toNat_add_ofNat {total : UInt64} {n : Nat} (h : total.toNat + n < UInt64.size) :
    (total + UInt64.ofNat n).toNat = total.toNat + n := by
  have hn : (UInt64.ofNat n).toNat = n := by
    rw [UInt64.toNat_ofNat']
    exact Nat.mod_eq_of_lt (Nat.lt_of_le_of_lt (Nat.le_add_left _ _) h)
  rw [UInt64.toNat_add, hn]
  exact Nat.mod_eq_of_lt h

theorem toNat_foldl_cost {run : List Piece} {total : UInt64}
    (h : total.toNat + totalCost run < UInt64.size) :
    (run.foldl (fun total p => total + UInt64.ofNat p.cost) total).toNat =
      total.toNat + totalCost run := by
  induction run generalizing total with
  | nil => rfl
  | cons p run ih =>
    rw [totalCost_cons, ← Nat.add_assoc] at h ⊢
    have hstep : (total + UInt64.ofNat p.cost).toNat = total.toNat + p.cost :=
      toNat_add_ofNat (Nat.lt_of_le_of_lt (Nat.le_add_right _ _) h)
    rw [List.foldl_cons, ih (by rwa [hstep]), hstep]

theorem toNat_runningTotal {run : List Piece} (h : totalCost run < UInt64.size) :
    (runningTotal run).toNat = totalCost run := by
  have hrun : (0 : UInt64).toNat + totalCost run < UInt64.size := by
    rwa [UInt64.toNat_zero, Nat.zero_add]
  rw [runningTotal, toNat_foldl_cost hrun, UInt64.toNat_zero, Nat.zero_add]

def CostsFit (root : Path) (files : List FileRecord) : Prop :=
  totalCost (files.filterMap (legible? system counter root)) < UInt64.size

theorem prefix_takePieces (root : Path) (ceiling : UInt64) (considered : Nat)
    (files : List FileRecord) (total taken : Nat) (more : List Piece)
    (hm : more <+: pieces system counter root files)
    (hc : total + totalCost more ≤ ceiling.toNat) :
    more <+: (takePieces system counter root ceiling considered files total taken).value := by
  induction files generalizing total taken more with
  | nil => exact hm
  | cons file files ih =>
    simp only [pieces, List.filterMap_cons] at hm
    simp only [takePieces]
    cases hfile : measure system counter root file with
    | error record =>
      rw [hfile] at hm
      exact ih total taken more hm hc
    | ok piece =>
      rw [hfile] at hm
      cases more with
      | nil => exact List.nil_prefix
      | cons p more =>
        obtain ⟨rfl, htail⟩ := List.cons_prefix_cons.1 hm
        rw [totalCost_cons] at hc
        have hfits : ¬ total + p.cost > ceiling.toNat := by omega
        simp only [if_neg hfits]
        exact List.cons_prefix_cons.2
          ⟨rfl, ih (total + p.cost) (taken + 1) more htail (by omega)⟩

theorem takePieces_fillsBudget (root : Path) (ceiling : UInt64) (considered : Nat)
    (files : List FileRecord) :
    FillsBudget ceiling.toNat (files.filterMap (legible? system counter root))
      (takePieces system counter root ceiling considered files 0 0).value := by
  rw [← pieces_eq_filterMap]
  constructor
  · exact takePieces_isPrefix system counter root ceiling considered files 0 0
  · have h := takePieces_cost_le system counter root ceiling considered files 0 0 (Nat.zero_le _)
    rwa [Nat.zero_add] at h
  · intro more hm hc
    exact prefix_takePieces system counter root ceiling considered files 0 0 more hm (by omega)

def taken (root : Path) (ceiling : UInt64) (ordered : List FileRecord) : List Piece :=
  (takePieces system counter root ceiling ordered.length ordered 0 0).value

theorem taken_fillsBudget (root : Path) (ceiling : UInt64) (ordered : List FileRecord) :
    FillsBudget ceiling.toNat (ordered.filterMap (legible? system counter root))
      (taken system counter root ceiling ordered) :=
  takePieces_fillsBudget system counter root ceiling ordered.length ordered

theorem taken_of_totalCost_le {root : Path} {ceiling : UInt64} {ordered : List FileRecord}
    (h : totalCost (ordered.filterMap (legible? system counter root)) ≤ ceiling.toNat) :
    taken system counter root ceiling ordered =
      ordered.filterMap (legible? system counter root) := by
  have hfills := taken_fillsBudget system counter root ceiling ordered
  have hall := hfills.longest _ List.prefix_rfl h
  exact hfills.run.eq_of_length (Nat.le_antisymm hfills.run.length_le hall.length_le)

theorem legible?_of_mem_taken {root : Path} {ceiling : UInt64} {ordered : List FileRecord}
    {p : Piece} (h : p ∈ taken system counter root ceiling ordered) :
    p.file ∈ ordered ∧ legible? system counter root p.file = some p := by
  have hrun := (taken_fillsBudget system counter root ceiling ordered).run
  obtain ⟨file, hfile, hp⟩ := List.mem_filterMap.1 (hrun.subset h)
  obtain ⟨text, cost, -, -, rfl⟩ := (legible?_eq_some_iff system counter).1 hp
  exact ⟨hfile, hp⟩

theorem taken_prefix_of_le {low high : UInt64} (h : low ≤ high) (root : Path)
    (ordered : List FileRecord) :
    taken system counter root low ordered <+: taken system counter root high ordered := by
  have hlow := taken_fillsBudget system counter root low ordered
  refine (taken_fillsBudget system counter root high ordered).longest _ hlow.run ?_
  exact Nat.le_trans hlow.within (UInt64.le_iff_toNat_le.1 h)

theorem collect_eq_ok_iff {root : Path} {ceiling : UInt64} {ordered : List FileRecord}
    {c : Collection} :
    (∃ log, collect system counter root ceiling ordered = .ok ⟨c, log⟩) ↔
      taken system counter root ceiling ordered ≠ [] ∧
        c = .ofPieces (taken system counter root ceiling ordered) := by
  unfold collect taken
  generalize takePieces system counter root ceiling ordered.length ordered 0 0 = pieces
  obtain ⟨_ | ⟨p, ps⟩, log⟩ := pieces
  · simp
  · simp [eq_comm]

theorem collect_fillsBudget (root : Path) (ceiling : UInt64) (ordered : List FileRecord) :
    ∃ taken, FillsBudget ceiling.toNat (ordered.filterMap (legible? system counter root)) taken ∧
      (collect system counter root ceiling ordered).map Logged.value =
        if taken = [] then .error ⟨ordered.length, ceiling⟩
        else .ok {
          content := String.join (taken.map fun p => formatBlock p.file.path p.source)
          files := taken.map (·.file)
          sources := taken.map (·.source)
          totalTokens := (taken.map (·.cost)).sum } := by
  refine ⟨_, takePieces_fillsBudget system counter root ceiling ordered.length ordered, ?_⟩
  unfold collect
  by_cases h : (takePieces system counter root ceiling ordered.length ordered 0 0).value = []
  · simp only [h, List.isEmpty_nil, if_true]
    rfl
  · have hne : (takePieces system counter root ceiling ordered.length ordered 0 0).value.isEmpty
        = false := by
      simpa using h
    simp only [h, hne, if_false, Bool.false_eq_true]
    rw [← totalCost_eq_sum]
    rfl

end SourceDigest.Scan
