namespace SourceDigest

def charactersPerToken : Nat := 4

def estimateTokens (text : String) : Nat :=
  (text.length + (charactersPerToken - 1)) / charactersPerToken

def defaultWindow : UInt64 := 128000

structure TokenCounter where
  count : String → Except String Nat
  window : UInt64

def TokenCounter.estimate (window : UInt64) : TokenCounter := ⟨fun s => .ok (estimateTokens s), window⟩

theorem estimateTokens_eq_zero_iff {s : String} : estimateTokens s = 0 ↔ s.length = 0 := by
  simp only [estimateTokens, charactersPerToken]
  omega

theorem length_le_estimateTokens (s : String) : s.length ≤ 4 * estimateTokens s := by
  simp only [estimateTokens, charactersPerToken]
  omega

theorem estimateTokens_lt (s : String) : 4 * estimateTokens s < s.length + 4 := by
  simp only [estimateTokens, charactersPerToken]
  omega

end SourceDigest
