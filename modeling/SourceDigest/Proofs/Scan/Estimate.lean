import SourceDigest.Files.Memory
import SourceDigest.Proofs.Scan.Budget

namespace SourceDigest

theorem estimateTokens_append_le (s t : String) :
    estimateTokens (s ++ t) ≤ estimateTokens s + estimateTokens t := by
  have hs := length_le_estimateTokens s
  have ht := length_le_estimateTokens t
  have hst := estimateTokens_lt (s ++ t)
  rw [String.length_append] at hst
  omega

theorem estimateTokens_join_le (blocks : List String) :
    estimateTokens (String.join blocks) ≤ (blocks.map estimateTokens).sum := by
  induction blocks with
  | nil => exact Nat.le_of_eq (estimateTokens_eq_zero_iff.2 rfl)
  | cons s blocks ih =>
    rw [String.join_cons, List.map_cons, List.sum_cons]
    have hle := estimateTokens_append_le s (String.join blocks)
    omega

theorem sum_estimateTokens_le (blocks : List String) :
    4 * (blocks.map estimateTokens).sum ≤ (String.join blocks).length + 3 * blocks.length := by
  induction blocks with
  | nil => exact Nat.zero_le _
  | cons s blocks ih =>
    have hs := estimateTokens_lt s
    rw [String.join_cons, String.length_append, List.map_cons, List.sum_cons, List.length_cons]
    omega

theorem sum_estimateTokens_lt {blocks : List String} (h : blocks ≠ []) :
    (blocks.map estimateTokens).sum < estimateTokens (String.join blocks) + blocks.length := by
  have hpos := List.length_pos_of_ne_nil h
  have hsum := sum_estimateTokens_le blocks
  have hjoin := length_le_estimateTokens (String.join blocks)
  omega

namespace Scan

open Files (System)

variable {system : System} {window : UInt64} {root : Path} {ceiling : UInt64}
  {ordered : List FileRecord}

theorem cost_of_mem_taken {p : Piece}
    (h : p ∈ taken system (.estimate window) root ceiling ordered) :
    p.cost = estimateTokens p.block := by
  obtain ⟨-, hp⟩ := legible?_of_mem_taken system (.estimate window) h
  obtain ⟨text, cost, -, hcost, he⟩ := (legible?_eq_some_iff system _).1 hp
  cases hcost
  rw [he]
  rfl

theorem totalCost_taken_estimate (system : System) (window : UInt64) (root : Path)
    (ceiling : UInt64) (ordered : List FileRecord) :
    totalCost (taken system (.estimate window) root ceiling ordered) =
      (((taken system (.estimate window) root ceiling ordered).map Piece.block).map
        estimateTokens).sum := by
  rw [totalCost_eq_sum, List.map_map]
  exact congrArg List.sum (List.map_congr_left fun p hp => cost_of_mem_taken hp)

theorem collect_estimate {c : Collection} {log : List LogRecord}
    (h : collect system (.estimate window) root ceiling ordered = .ok ⟨c, log⟩) :
    estimateTokens c.content ≤ c.totalTokens ∧ c.totalTokens ≤ ceiling.toNat ∧
      c.totalTokens < estimateTokens c.content + c.files.length := by
  obtain ⟨hne, rfl⟩ := (collect_eq_ok_iff system (.estimate window)).1 ⟨log, h⟩
  have hcost := totalCost_taken_estimate system window root ceiling ordered
  have hwithin := (taken_fillsBudget system (.estimate window) root ceiling ordered).within
  generalize taken system (.estimate window) root ceiling ordered = pieces at *
  have hle := estimateTokens_join_le (pieces.map Piece.block)
  have hlt := sum_estimateTokens_lt (mt List.map_eq_nil_iff.1 hne : pieces.map Piece.block ≠ [])
  rw [← hcost] at hle hlt
  simp only [Collection.ofPieces]
  rw [List.length_map] at hlt ⊢
  exact ⟨hle, hwithin, hlt⟩

def unevenFiles : Files.Memory :=
  .ofFiles [(⟨"p/α.rs"⟩, "日本"), (⟨"p/β.rs"⟩, "語字"), (⟨"p/γ.rs"⟩, "🦀🦀")] []

theorem collect_estimate_uneven :
    ∃ c log,
      collect unevenFiles.system (.estimate defaultWindow) ⟨"p"⟩ 39
          [⟨"α.rs", 6, none⟩, ⟨"β.rs", 6, none⟩, ⟨"γ.rs", 8, none⟩] = .ok ⟨c, log⟩ ∧
        estimateTokens c.content = 37 ∧ c.totalTokens = 39 ∧
        estimateTokens c.content ≤ c.totalTokens ∧
        c.totalTokens < estimateTokens c.content + c.files.length := by
  have hcollect : collect unevenFiles.system (.estimate defaultWindow) ⟨"p"⟩ 39
      [⟨"α.rs", 6, none⟩, ⟨"β.rs", 6, none⟩, ⟨"γ.rs", 8, none⟩] = .ok ⟨_, _⟩ := rfl
  obtain ⟨hle, -, hlt⟩ := collect_estimate hcollect
  exact ⟨_, _, hcollect, by decide +kernel, by decide +kernel, hle, hlt⟩

end Scan

end SourceDigest
