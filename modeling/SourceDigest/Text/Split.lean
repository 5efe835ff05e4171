import SourceDigest.Text.Blank

namespace SourceDigest.Text

variable {α : Type} [DecidableEq α]

def splitOn (sep : α) : List α → List (List α)
  | [] => [[]]
  | c :: s =>
    if c = sep then [] :: splitOn sep s
    else
      match splitOn sep s with
      | [] => [[c]]
      | w :: ws => (c :: w) :: ws

def joinWith {α : Type} (sep : List α) : List (List α) → List α
  | [] => []
  | [w] => w
  | w :: v :: ws => w ++ sep ++ joinWith sep (v :: ws)

theorem splitOn_ne_nil (sep : α) (s : List α) : splitOn sep s ≠ [] := by
  cases s with
  | nil => simp [splitOn]
  | cons c s =>
    simp only [splitOn]
    split
    · simp
    · split <;> simp

omit [DecidableEq α] in
theorem joinWith_cons_cons (sep w : List α) {l : List (List α)} (h : l ≠ []) :
    joinWith sep (w :: l) = w ++ sep ++ joinWith sep l := by
  cases l with
  | nil => exact absurd rfl h
  | cons v ws => rfl

theorem joinWith_splitOn (sep : α) (s : List α) : joinWith [sep] (splitOn sep s) = s := by
  induction s with
  | nil => rfl
  | cons c s ih =>
    simp only [splitOn]
    split
    · rename_i h
      rw [joinWith_cons_cons _ _ (splitOn_ne_nil sep s), ih, h]
      rfl
    · split
      · rename_i h
        exact absurd h (splitOn_ne_nil sep s)
      · rename_i w ws h
        rw [h] at ih
        cases ws with
        | nil => simpa [joinWith] using ih
        | cons v ws => simpa [joinWith] using ih

theorem not_mem_of_mem_splitOn {sep : α} {s w : List α} (h : w ∈ splitOn sep s) :
    sep ∉ w := by
  induction s generalizing w with
  | nil =>
    simp only [splitOn, List.mem_singleton] at h
    simp [h]
  | cons c s ih =>
    simp only [splitOn] at h
    split at h
    · rcases List.mem_cons.1 h with rfl | h
      · simp
      · exact ih h
    · rename_i hc
      split at h
      · simp only [List.mem_singleton] at h
        simp [h, Ne.symm hc]
      · rename_i v vs hv
        rcases List.mem_cons.1 h with rfl | h
        · simp only [List.mem_cons, not_or]
          exact ⟨Ne.symm hc, ih (hv ▸ List.mem_cons_self)⟩
        · exact ih (hv ▸ List.mem_cons_of_mem _ h)

theorem splitOn_eq_singleton {sep : α} {s : List α} (h : sep ∉ s) : splitOn sep s = [s] := by
  induction s with
  | nil => rfl
  | cons c s ih =>
    simp only [List.mem_cons, not_or] at h
    simp [splitOn, Ne.symm h.1, ih h.2]

theorem splitOn_append_cons {sep : α} {w : List α} (h : sep ∉ w) (s : List α) :
    splitOn sep (w ++ sep :: s) = w :: splitOn sep s := by
  induction w with
  | nil => simp [splitOn]
  | cons c w ih =>
    simp only [List.mem_cons, not_or] at h
    simp [splitOn, Ne.symm h.1, ih h.2]

theorem splitOn_append_sep (sep : α) (s t : List α) :
    splitOn sep (s ++ sep :: t) = splitOn sep s ++ splitOn sep t := by
  induction s with
  | nil => simp [splitOn]
  | cons c s ih =>
    obtain ⟨w, ws, hw⟩ := List.exists_cons_of_ne_nil (splitOn_ne_nil sep s)
    simp only [List.cons_append, splitOn, ih, hw]
    split <;> rfl

theorem splitOn_joinWith {sep : α} {ws : List (List α)} (hne : ws ≠ [])
    (h : ∀ w ∈ ws, sep ∉ w) : splitOn sep (joinWith [sep] ws) = ws := by
  induction ws with
  | nil => exact absurd rfl hne
  | cons w ws ih =>
    have hw : sep ∉ w := h w List.mem_cons_self
    cases ws with
    | nil => exact splitOn_eq_singleton hw
    | cons v ws =>
      rw [joinWith_cons_cons _ _ (List.cons_ne_nil v ws), List.append_assoc, List.singleton_append,
        splitOn_append_cons hw, ih (List.cons_ne_nil v ws)]
      exact fun u hu => h u (List.mem_cons_of_mem w hu)

def words (s : List Char) : List (List Char) :=
  (splitOn ' ' (s.map fun c => if isBlank c then ' ' else c)).filter (!·.isEmpty)

def collapseBlanks (s : List Char) : List Char := joinWith [' '] (words s)

def splitLast (sep : α) (s : List α) : Option (List α) × List α :=
  match splitOnce sep s.reverse with
  | some (last, before) => (some before.reverse, last.reverse)
  | none => (none, s)

end SourceDigest.Text
