namespace SourceDigest.Analysis

/-- Without a limit all jobs are under way at once. `pick` says which of them ends next when so many
more are left to end after it. -/
structure Pool where
  limit : Option Nat
  pick : Nat → Nat

namespace Pool

def maxPlaces : Nat := UInt64.size / 8 - 1

variable {α β : Type}

def underWay (p : Pool) (n : Nat) : Nat :=
  match p.limit with
  | none => n
  | some limit => min n (max 1 limit)

def endings (p : Pool) : Nat → List α → List α
  | 0, _ => []
  | n + 1, jobs =>
    let k := p.pick n % p.underWay jobs.length
    match jobs[k]? with
    | none => []
    | some job => job :: endings p n (jobs.eraseIdx k)

def run (p : Pool) (work : α → β) (jobs : List α) : List (Nat × β) :=
  (p.endings jobs.length jobs.zipIdx).map fun (job, i) => (i, work job)

def inOrder (n : Nat) (results : List (Nat × β)) : List β :=
  (List.range n).filterMap fun i => results.lookup i

theorem underWay_le (p : Pool) (n : Nat) : p.underWay n ≤ n := by
  unfold underWay
  split
  · exact Nat.le_refl n
  · exact Nat.min_le_left _ _

theorem underWay_pos (p : Pool) {n : Nat} (h : 0 < n) : 0 < p.underWay n := by
  unfold underWay
  split
  · exact h
  · omega

theorem getElem_cons_eraseIdx_perm {l : List α} {k : Nat} (h : k < l.length) :
    (l[k] :: l.eraseIdx k).Perm l := by
  rw [List.eraseIdx_eq_take_drop_succ]
  have hl : l = l.take k ++ l[k] :: l.drop (k + 1) := by
    rw [← List.drop_eq_getElem_cons h, List.take_append_drop]
  exact List.perm_middle.symm.trans (List.Perm.of_eq hl.symm)

theorem endings_perm (p : Pool) (n : Nat) (jobs : List α) (h : jobs.length = n) :
    (p.endings n jobs).Perm jobs := by
  induction n generalizing jobs with
  | zero =>
    rw [List.eq_nil_of_length_eq_zero h]
    exact List.Perm.refl _
  | succ n ih =>
    have hpos : 0 < jobs.length := by omega
    have hk : p.pick n % p.underWay jobs.length < jobs.length :=
      Nat.lt_of_lt_of_le (Nat.mod_lt _ (p.underWay_pos hpos)) (p.underWay_le _)
    simp only [endings, List.getElem?_eq_getElem hk]
    have hlen : (jobs.eraseIdx (p.pick n % p.underWay jobs.length)).length = n := by
      rw [List.length_eraseIdx_of_lt hk]
      omega
    exact ((ih _ hlen).cons _).trans (getElem_cons_eraseIdx_perm hk)

theorem run_congr (p : Pool) {f g : α → β} {jobs : List α} (h : ∀ a ∈ jobs, f a = g a) :
    p.run f jobs = p.run g jobs := by
  refine List.map_congr_left fun (job, i) hj => ?_
  have hm := (p.endings_perm jobs.length jobs.zipIdx List.length_zipIdx).mem_iff.1 hj
  simp only [h job (List.fst_mem_of_mem_zipIdx hm)]

end Pool

end SourceDigest.Analysis
