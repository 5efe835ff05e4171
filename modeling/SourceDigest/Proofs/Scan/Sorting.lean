import SourceDigest.Proofs.Path.Order
import SourceDigest.Scan.Discover

namespace SourceDigest.Scan

variable {p q : Path} {l found new : List Path}

theorem components_mem_insertPath :
    q.components ∈ (insertPath p l).map Path.components ↔
      q.components = p.components ∨ q.components ∈ l.map Path.components := by
  induction l with
  | nil => simp [insertPath]
  | cons r l ih =>
    simp only [insertPath]
    split
    · rename_i hsame
      rw [Path.same_iff] at hsame
      rw [List.map_cons, List.mem_cons, hsame, ← or_assoc, or_self]
    · split
      · rw [List.map_cons, List.mem_cons]
      · rw [List.map_cons, List.mem_cons, ih, List.map_cons, List.mem_cons, or_left_comm]

theorem mem_of_mem_insertPath (h : q ∈ insertPath p l) : q = p ∨ q ∈ l := by
  induction l with
  | nil => exact Or.inl (List.mem_singleton.1 h)
  | cons r l ih =>
    simp only [insertPath] at h
    split at h
    · exact Or.inr h
    · split at h
      · exact List.mem_cons.1 h
      · rcases List.mem_cons.1 h with rfl | h
        · exact Or.inr List.mem_cons_self
        · exact (ih h).imp_right (List.mem_cons_of_mem r)

theorem ascending_insertPath (h : Path.Ascending l) : Path.Ascending (insertPath p l) := by
  induction l with
  | nil => exact List.pairwise_singleton _ p
  | cons r l ih =>
    obtain ⟨hr, hl⟩ := List.pairwise_cons.1 h
    simp only [insertPath]
    split
    · exact h
    · rename_i hsame
      split
      · rename_i hp
        refine List.pairwise_cons.2 ⟨fun q hq => ?_, h⟩
        rcases List.mem_cons.1 hq with rfl | hq
        · exact hp
        · exact Path.before_trans hp (hr q hq)
      · rename_i hp
        refine List.pairwise_cons.2 ⟨fun q hq => ?_, ih hl⟩
        rcases mem_of_mem_insertPath hq with rfl | hq
        · exact Path.before_of_not hsame hp
        · exact hr q hq

theorem components_mem_insertPaths :
    q.components ∈ (insertPaths new found).map Path.components ↔
      q.components ∈ new.map Path.components ∨ q.components ∈ found.map Path.components := by
  unfold insertPaths
  induction new generalizing found with
  | nil => simp
  | cons p new ih =>
    rw [List.foldl_cons, ih, components_mem_insertPath, List.map_cons, List.mem_cons, or_left_comm,
      or_assoc]

theorem ascending_insertPaths (h : Path.Ascending found) :
    Path.Ascending (insertPaths new found) := by
  unfold insertPaths
  induction new generalizing found with
  | nil => exact h
  | cons p new ih => exact ih (ascending_insertPath h)

theorem mem_of_mem_insertPaths (h : p ∈ insertPaths new found) :
    p ∈ new ∨ p ∈ found := by
  unfold insertPaths at h
  induction new generalizing found with
  | nil => exact Or.inr h
  | cons q new ih =>
    rcases ih h with hnew | hfound
    · exact Or.inl (List.mem_cons_of_mem q hnew)
    · rcases mem_of_mem_insertPath hfound with rfl | hfound
      · exact Or.inl List.mem_cons_self
      · exact Or.inr hfound

theorem insertPath_perm (h : p.components ∉ l.map Path.components) :
    (insertPath p l).Perm (p :: l) := by
  induction l with
  | nil => exact List.Perm.refl [p]
  | cons q l ih =>
    simp only [List.map_cons, List.mem_cons, not_or] at h
    simp only [insertPath]
    split
    · exact absurd (Path.same_iff.1 ‹_›) h.1
    · split
      · exact List.Perm.refl _
      · exact ((ih h.2).cons q).trans (List.Perm.swap p q l)

theorem insertPaths_perm (h : ((new ++ found).map Path.components).Nodup) :
    (insertPaths new found).Perm (new ++ found) := by
  unfold insertPaths
  induction new generalizing found with
  | nil => exact List.Perm.refl found
  | cons p new ih =>
    have hp := insertPath_perm (p := p) (l := found) fun hmem => by
      simp only [List.cons_append, List.map_cons, List.nodup_cons, List.map_append] at h
      exact h.1 (List.mem_append_right _ hmem)
    have hmid : (new ++ insertPath p found).Perm (p :: (new ++ found)) :=
      (hp.append_left new).trans List.perm_middle
    exact (ih ((hmid.map Path.components).nodup_iff.2 h)).trans hmid

theorem sortPaths_perm (l : List Path) : (sortPaths l).Perm l := List.mergeSort_perm l _

theorem ascending_sortPaths (h : (l.map Path.components).Nodup) :
    Path.Ascending (sortPaths l) := by
  have hsorted : (sortPaths l).Pairwise fun p q => (!q.before p) = true := by
    refine List.pairwise_mergeSort ?_ ?_ l
    · intro p q r hpq hqr
      simp only [Bool.not_eq_true', ← Bool.not_eq_true, Path.before_iff_places, not_lt] at hpq hqr ⊢
      exact hpq.trans hqr
    · intro p q
      simp only [Bool.or_eq_true, Bool.not_eq_true', ← Bool.not_eq_true, Path.before_iff_places,
        not_lt]
      exact le_total _ _
  have hnodup : ((sortPaths l).map Path.components).Nodup :=
    ((sortPaths_perm l).map Path.components).nodup_iff.2 h
  refine List.Pairwise.imp₂ ?_ hsorted (List.pairwise_map.1 hnodup)
  intro p q hnot hne
  refine Path.before_of_not (fun hsame => hne (Path.same_iff.1 hsame).symm) ?_
  simpa using hnot

theorem insertPaths_nil_eq_sortPaths (h : (l.map Path.components).Nodup) :
    insertPaths l [] = sortPaths l := by
  have hperm : (insertPaths l []).Perm (l ++ []) := insertPaths_perm (by rwa [List.append_nil])
  rw [List.append_nil] at hperm
  refine List.Perm.eq_of_pairwise ?_ (ascending_insertPaths List.Pairwise.nil)
    (ascending_sortPaths h) (hperm.trans (sortPaths_perm l).symm)
  intro p q _ _ hpq hqp
  exact absurd (Path.before_trans hpq hqp) (Path.before_irrefl p)

end SourceDigest.Scan
