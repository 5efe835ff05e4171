import SourceDigest.Analysis.Analyze
import SourceDigest.Proofs.Scan.Budget

namespace SourceDigest.Analysis

open Files (System)

structure Selects (system : System) (counter : TokenCounter) (settings : Settings)
    (paths : List Path) (found : Logged (List Path)) (s : Selection) : Prop where
  rooted : resolveRoot system settings paths = .ok s.root
  scanned : discover system settings.scan s.root paths = .ok found
  ordered : s.ordered =
    Scan.prioritize (Scan.describe system settings.scan s.root found.value).value
  collected : s.collection = .ofPieces
    (Scan.taken system counter s.root (settings.ceiling counter.window) s.ordered)
  nonempty : Scan.taken system counter s.root (settings.ceiling counter.window) s.ordered ≠ []

variable {system : System} {counter : TokenCounter} {settings : Settings} {paths : List Path}

theorem selects_of_select {selected : Logged Selection}
    (h : select system counter settings paths = .ok selected) :
    ∃ found, Selects system counter settings paths found selected.value := by
  unfold select at h
  split at h
  · cases h
  · rename_i root hroot
    split at h
    · cases h
    · rename_i found hfound
      dsimp only at h
      split at h
      · cases h
      · split at h
        · cases h
        · rename_i collected hcollect
          cases h
          obtain ⟨hne, hcollection⟩ :=
            (Scan.collect_eq_ok_iff system counter).1 ⟨collected.log, hcollect⟩
          exact ⟨found, hroot, hfound, rfl, hcollection, hne⟩

theorem Selects.exists_select {found : Logged (List Path)} {s : Selection}
    (h : Selects system counter settings paths found s) :
    ∃ log, select system counter settings paths = .ok ⟨s, log⟩ := by
  obtain ⟨log, hcollect⟩ := (Scan.collect_eq_ok_iff system counter).2 ⟨h.nonempty, h.collected⟩
  have hdescribed :
      (Scan.describe system settings.scan s.root found.value).value.isEmpty = false := by
    -- Of no files none is taken.
    by_contra hempty
    rw [Bool.not_eq_false, List.isEmpty_iff] at hempty
    apply h.nonempty
    rw [h.ordered, hempty, Scan.prioritize, List.map_nil, List.mergeSort_nil]
    rfl
  rw [h.ordered] at hcollect
  simp only [select, h.rooted, h.scanned, hdescribed, hcollect, Bool.false_eq_true, if_false]
  rw [← h.ordered]
  exact ⟨_, rfl⟩

end SourceDigest.Analysis
