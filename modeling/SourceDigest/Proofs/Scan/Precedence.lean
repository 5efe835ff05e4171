import SourceDigest.Proofs.Scan.Budget
import SourceDigest.Proofs.Scan.Ranking

namespace SourceDigest.Scan

open Files (System)

variable {system : System} {counter : TokenCounter} {root : Path} {ceiling : UInt64}
  {files : List FileRecord} {f g : FileRecord}

theorem file_of_legible? {p : Piece} (h : legible? system counter root f = some p) : p.file = f := by
  obtain ⟨text, cost, -, -, rfl⟩ := (legible?_eq_some_iff system counter).1 h
  rfl

theorem rank_le_of_legible (system : System) (counter : TokenCounter) (root : Path)
    (files : List FileRecord) :
    ((prioritize files).filterMap (legible? system counter root)).Pairwise
      fun p q => p.file.rank ≤ q.file.rank := by
  refine List.Pairwise.filterMap (R := fun a b : FileRecord => a.rank ≤ b.rank) _ ?_
    (rank_le_of_prioritize files)
  intro a b hab p hp q hq
  rw [file_of_legible? hp, file_of_legible? hq]
  exact hab

theorem rank_lt_of_not_taken (hf : f ∈ prioritize files)
    (hlegible : (legible? system counter root f).isSome = true)
    (hout : f ∉ (taken system counter root ceiling (prioritize files)).map (·.file))
    (hg : g ∈ (taken system counter root ceiling (prioritize files)).map (·.file)) :
    g.rank < f.rank := by
  obtain ⟨p, hp⟩ := Option.isSome_iff_exists.1 hlegible
  obtain ⟨q, hq, rfl⟩ := List.mem_map.1 hg
  obtain ⟨left, hleft⟩ := (taken_fillsBudget system counter root ceiling (prioritize files)).run
  have hpmem : p ∈ (prioritize files).filterMap (legible? system counter root) :=
    List.mem_filterMap.2 ⟨f, hf, hp⟩
  have hpairs := rank_le_of_legible system counter root files
  rw [← hleft] at hpmem hpairs
  have hpleft : p ∈ left := by
    refine (List.mem_append.1 hpmem).resolve_left fun htaken => hout ?_
    exact List.mem_map.2 ⟨p, htaken, file_of_legible? hp⟩
  have hle : q.file.rank ≤ f.rank := by
    rw [← file_of_legible? hp]
    exact (List.pairwise_append.1 hpairs).2.2 q hq p hpleft
  refine lt_of_le_of_ne hle fun heq => hout ?_
  have hqf : q.file = f := by
    have hqranked := (legible?_of_mem_taken system counter hq).1
    exact FileRecord.eq_of_rank_eq (isSome_priority_of_mem_prioritize hqranked)
      (isSome_priority_of_mem_prioritize hf) heq
  exact hqf ▸ hg

end SourceDigest.Scan
