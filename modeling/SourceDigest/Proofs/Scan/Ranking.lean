import Mathlib.Data.List.Sort
import Mathlib.Data.Prod.Lex
import Mathlib.Data.String.Basic
import SourceDigest.Scan.Ranking

namespace SourceDigest

theorem Priority.level_injective : Function.Injective Priority.level := by
  rintro ⟨n, _, _⟩ ⟨k, _, _⟩ h
  cases h
  rfl

namespace FileRecord

def rank (f : FileRecord) : ℕ ×ₗ ℕ ×ₗ ℕ ×ₗ String :=
  toLex (f.priorityOrLowest.level, toLex (f.size.toNat, toLex (depthOf f.path, f.path)))

variable {a b : FileRecord}

theorem rank_eq_iff :
    a.rank = b.rank ↔
      a.priorityOrLowest = b.priorityOrLowest ∧ a.size = b.size ∧ a.path = b.path := by
  simp only [rank, EmbeddingLike.apply_eq_iff_eq, Prod.mk.injEq, UInt64.toNat_inj]
  constructor
  · rintro ⟨hlevel, hsize, -, hpath⟩
    exact ⟨Priority.level_injective hlevel, hsize, hpath⟩
  · rintro ⟨hlevel, hsize, hpath⟩
    exact ⟨congrArg Priority.level hlevel, hsize, congrArg depthOf hpath, hpath⟩

theorem eq_of_rank_eq (ha : a.priority.isSome = true) (hb : b.priority.isSome = true)
    (h : a.rank = b.rank) : a = b := by
  obtain ⟨hlevel, hsize, hpath⟩ := rank_eq_iff.1 h
  obtain ⟨path, size, priority⟩ := a
  obtain ⟨path', size', priority'⟩ := b
  obtain ⟨p, rfl⟩ := Option.isSome_iff_exists.1 ha
  obtain ⟨q, rfl⟩ := Option.isSome_iff_exists.1 hb
  simp only [priorityOrLowest, Option.getD_some] at hlevel hsize hpath
  rw [hlevel, hsize, hpath]

end FileRecord

namespace Scan

variable {a b : FileRecord} {files files' : List FileRecord}

theorem ranksUpTo_iff_rank_le : FileRecord.ranksUpTo a b = true ↔ a.rank ≤ b.rank := by
  simp only [FileRecord.ranksUpTo, FileRecord.rank, Prod.Lex.toLex_le_toLex]
  by_cases hlevel : a.priorityOrLowest.level = b.priorityOrLowest.level
  · by_cases hsize : a.size = b.size
    · by_cases hdepth : depthOf a.path = depthOf b.path
      · simp [hlevel, hsize, hdepth]
      · simp [hlevel, hsize, hdepth]
    · have hne : a.size.toNat ≠ b.size.toNat := mt UInt64.toNat_inj.1 hsize
      simp [hlevel, hsize, hne, UInt64.lt_iff_toNat_lt]
  · simp [hlevel]

theorem rank_le_of_prioritize (files : List FileRecord) :
    (prioritize files).Pairwise fun a b => a.rank ≤ b.rank := by
  have hsorted : (prioritize files).Pairwise fun a b => FileRecord.ranksUpTo a b = true := by
    refine List.pairwise_mergeSort ?_ ?_ _
    · intro a b c hab hbc
      rw [ranksUpTo_iff_rank_le] at hab hbc ⊢
      exact hab.trans hbc
    · intro a b
      rw [Bool.or_eq_true, ranksUpTo_iff_rank_le, ranksUpTo_iff_rank_le]
      exact le_total _ _
  exact hsorted.imp ranksUpTo_iff_rank_le.1

theorem prioritize_of_ranked
    (h : (files.map withPriority).Pairwise fun a b => FileRecord.ranksUpTo a b = true) :
    prioritize files = files.map withPriority :=
  List.mergeSort_of_pairwise h

theorem isSome_priority_of_mem_prioritize (h : a ∈ prioritize files) :
    a.priority.isSome = true := by
  obtain ⟨f, -, rfl⟩ := List.mem_map.1 ((prioritize_perm files).mem_iff.1 h)
  rfl

theorem prioritize_eq_of_perm (h : (files.map withPriority).Perm (files'.map withPriority)) :
    prioritize files = prioritize files' := by
  refine List.Perm.eq_of_pairwise ?_ (rank_le_of_prioritize files) (rank_le_of_prioritize files')
    ((prioritize_perm files).trans (h.trans (prioritize_perm files').symm))
  intro a b ha hb hab hba
  exact FileRecord.eq_of_rank_eq (isSome_priority_of_mem_prioritize ha)
    (isSome_priority_of_mem_prioritize hb) (le_antisymm hab hba)

theorem map_withPriority_perm
    (h : (files.map fun f => (f.path, f.size)).Perm (files'.map fun f => (f.path, f.size))) :
    (files.map withPriority).Perm (files'.map withPriority) := by
  have hmap := h.map fun e => FileRecord.mk e.1 e.2 (some (priorityOf e.1))
  rwa [List.map_map, List.map_map] at hmap

theorem prioritize_canonical
    (h : (files.map fun f => (f.path, f.size)).Perm (files'.map fun f => (f.path, f.size))) :
    prioritize files = prioritize files' ∧
      (prioritize files).Perm
        (files.map fun f => { f with priority := some (priorityOf f.path) }) ∧
      (prioritize files).Pairwise (fun a b => a.rank ≤ b.rank) ∧
      (∀ a b, FileRecord.ranksUpTo a b = true ↔ a.rank ≤ b.rank) ∧
      ∀ a b : FileRecord, a.priority.isSome = true → b.priority.isSome = true →
        FileRecord.ranksUpTo a b = true → FileRecord.ranksUpTo b a = true → a = b := by
  refine ⟨prioritize_eq_of_perm (map_withPriority_perm h), prioritize_perm files,
    rank_le_of_prioritize files, fun _ _ => ranksUpTo_iff_rank_le, ?_⟩
  intro a b ha hb hab hba
  rw [ranksUpTo_iff_rank_le] at hab hba
  exact FileRecord.eq_of_rank_eq ha hb (le_antisymm hab hba)

def tiedFiles : List FileRecord := [
  ⟨"src/z/b.ts", 10, some .highest⟩, ⟨"src/b.ts", 10, none⟩, ⟨"readme.md", 40, some .lowest⟩,
  ⟨"src/a.ts", 10, some .lowest⟩, ⟨"src/b.ts", 10, some .highest⟩]

def rankedFiles : List FileRecord := [
  ⟨"readme.md", 40, none⟩, ⟨"src/a.ts", 10, none⟩, ⟨"src/b.ts", 10, none⟩, ⟨"src/b.ts", 10, none⟩,
  ⟨"src/z/b.ts", 10, none⟩]

theorem prioritize_canonical_tiedFiles :
    (tiedFiles.map fun f => (f.path, f.size)).Perm (rankedFiles.map fun f => (f.path, f.size)) ∧
      prioritize tiedFiles = rankedFiles.map withPriority := by
  have hperm : (tiedFiles.map fun f => (f.path, f.size)).Perm
      (rankedFiles.map fun f => (f.path, f.size)) := by
    decide +kernel
  have hranked : prioritize rankedFiles = rankedFiles.map withPriority :=
    prioritize_of_ranked (by decide +kernel)
  exact ⟨hperm, (prioritize_canonical hperm).1.trans hranked⟩

end Scan

end SourceDigest
