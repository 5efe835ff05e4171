import SourceDigest.Duration
import SourceDigest.Scan.Discover

namespace SourceDigest.Analysis

structure Settings where
  root : Option Path
  tokenCeiling : Option UInt64
  promptReserve : UInt64
  maxConcurrent : Option UInt64
  keepSnapshot : Bool
  parseTimeout : Option Duration
  scan : Scan.Options
  deriving DecidableEq, Repr

namespace Settings

def defaultPromptReserve : UInt64 := 8192

def default : Settings := ⟨none, none, defaultPromptReserve, none, true, none, .default⟩

def leastCeiling : UInt64 := 1024

def subtractCapped (a b : UInt64) : UInt64 := if b ≤ a then a - b else 0

def ceiling (s : Settings) (window : UInt64) : UInt64 :=
  match s.tokenCeiling with
  | some c => c
  | none => max (subtractCapped window s.promptReserve) (min leastCeiling window)

def extractionLimit (s : Settings) : Option UInt64 := s.maxConcurrent.filter (0 < ·)

theorem subtractCapped_le (a b : UInt64) : subtractCapped a b ≤ a := by
  unfold subtractCapped
  split
  · rename_i h
    rw [UInt64.le_iff_toNat_le] at h ⊢
    rw [UInt64.toNat_sub_of_le _ _ (UInt64.le_iff_toNat_le.2 h)]
    omega
  · exact UInt64.le_iff_toNat_le.2 (Nat.zero_le _)

theorem min_le_right (a b : UInt64) : min a b ≤ b := by
  change (if a ≤ b then a else b) ≤ b
  split
  · assumption
  · exact UInt64.le_refl b

theorem max_le {a b c : UInt64} (ha : a ≤ c) (hb : b ≤ c) : max a b ≤ c := by
  change (if a ≤ b then b else a) ≤ c
  split
  · exact hb
  · exact ha

theorem ceiling_le_window {s : Settings} (h : s.tokenCeiling = none) (window : UInt64) :
    s.ceiling window ≤ window := by
  simp only [ceiling, h]
  exact max_le (subtractCapped_le _ _) (min_le_right _ _)

end Settings

end SourceDigest.Analysis
