import Mathlib.Data.List.Perm.Basic
import SourceDigest.Analysis.Pool

namespace SourceDigest.Analysis

variable {α β : Type}

theorem lookup_eq_of_mem_of_nodup {l : List (Nat × β)} {i : Nat} {b : β}
    (hn : (l.map Prod.fst).Nodup) (h : (i, b) ∈ l) : l.lookup i = some b := by
  induction l with
  | nil => cases h
  | cons e l ih =>
    obtain ⟨j, c⟩ := e
    obtain ⟨hj, hn⟩ := List.nodup_cons.1 hn
    rcases List.mem_cons.1 h with heq | htail
    · cases heq
      simp
    · have hne : i ≠ j := by
        intro hij
        exact hj (hij ▸ List.mem_map.2 ⟨(i, b), htail, rfl⟩)
      rw [List.lookup_cons, beq_eq_false_iff_ne.2 hne]
      exact ih hn htail

theorem filterMap_getElem?_range (l : List α) :
    (List.range l.length).filterMap (fun i => l[i]?) = l := by
  induction l with
  | nil => rfl
  | cons a l ih =>
    rw [List.length_cons, List.range_succ_eq_map, List.filterMap_cons, List.filterMap_map]
    simp only [List.getElem?_cons_zero]
    exact congrArg (List.cons a) ih

namespace Pool

theorem run_perm (p : Pool) (work : α → β) (jobs : List α) :
    (p.run work jobs).Perm (jobs.zipIdx.map fun (job, i) => (i, work job)) :=
  (p.endings_perm jobs.length jobs.zipIdx List.length_zipIdx).map _

theorem run_keys_nodup (p : Pool) (work : α → β) (jobs : List α) :
    ((p.run work jobs).map Prod.fst).Nodup := by
  have hp := (p.run_perm work jobs).map Prod.fst
  have hk : (jobs.zipIdx.map fun (job, i) => (i, work job)).map Prod.fst
      = List.range' 0 jobs.length := by
    rw [List.map_map, ← List.zipIdx_map_snd]
    rfl
  rw [hk] at hp
  exact hp.nodup_iff.2 List.nodup_range'

theorem lookup_run (p : Pool) (work : α → β) (jobs : List α) {i : Nat} (h : i < jobs.length) :
    (p.run work jobs).lookup i = (jobs.map work)[i]? := by
  have hm : (i, work jobs[i]) ∈ p.run work jobs := by
    rw [(p.run_perm work jobs).mem_iff, List.mem_map]
    exact ⟨(jobs[i], i), List.mem_zipIdx_iff_getElem?.2 (List.getElem?_eq_getElem h), rfl⟩
  rw [lookup_eq_of_mem_of_nodup (p.run_keys_nodup work jobs) hm, List.getElem?_map,
    List.getElem?_eq_getElem h]
  rfl

theorem inOrder_run (p : Pool) (work : α → β) (jobs : List α) :
    inOrder jobs.length (p.run work jobs) = jobs.map work := by
  have hl : inOrder jobs.length (p.run work jobs)
      = (List.range jobs.length).filterMap fun i => (jobs.map work)[i]? := by
    apply List.filterMap_congr
    intro i hi
    exact p.lookup_run work jobs (List.mem_range.1 hi)
  rw [hl, ← List.length_map work]
  exact filterMap_getElem?_range (jobs.map work)

theorem results_perm (p : Pool) (work : α → β) (jobs : List α) :
    ((p.run work jobs).map Prod.snd).Perm (jobs.map work) := by
  have h := (p.run_perm work jobs).map Prod.snd
  have hs : (jobs.zipIdx.map fun (job, i) => (i, work job)).map Prod.snd = jobs.map work := by
    rw [List.map_map]
    conv_rhs => rw [← List.zipIdx_map_fst 0 jobs, List.map_map]
    rfl
  rwa [hs] at h

end Pool

end SourceDigest.Analysis
