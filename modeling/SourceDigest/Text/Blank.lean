namespace SourceDigest.Text

def isBlank (c : Char) : Bool :=
  let n := c.toNat
  (9 ≤ n && n ≤ 13) || n == 0x20 || n == 0x85 || n == 0xa0 || n == 0x1680
    || (0x2000 ≤ n && n ≤ 0x200a) || n == 0x2028 || n == 0x2029 || n == 0x202f
    || n == 0x205f || n == 0x3000

theorem isBlank_of_isWhitespace {c : Char} (h : c.isWhitespace = true) : isBlank c = true := by
  simp only [Char.isWhitespace, Bool.or_eq_true, decide_eq_true_eq] at h
  rcases h with ((rfl | rfl) | rfl) | rfl <;> decide

def dropBlanks (s : List Char) : List Char := s.dropWhile isBlank

def dropEndBlanks (s : List Char) : List Char := (s.reverse.dropWhile isBlank).reverse

def trimChars (s : List Char) : List Char := dropEndBlanks (dropBlanks s)

def trim (s : String) : String := String.ofList (trimChars s.toList)

theorem dropBlanks_cons_of_not {c : Char} {s : List Char} (h : isBlank c = false) :
    dropBlanks (c :: s) = c :: s := by
  simp [dropBlanks, h]

theorem dropEndBlanks_append_of_not {c : Char} {s : List Char} (h : isBlank c = false) :
    dropEndBlanks (s ++ [c]) = s ++ [c] := by
  simp [dropEndBlanks, h]

theorem dropEndBlanks_nil : dropEndBlanks [] = [] := rfl

theorem exists_dropEndBlanks_append (s : List Char) :
    ∃ b : List Char, s = dropEndBlanks s ++ b ∧ ∀ c ∈ b, isBlank c = true := by
  refine ⟨(s.reverse.takeWhile isBlank).reverse, ?_, ?_⟩
  · rw [dropEndBlanks, ← List.reverse_append, List.takeWhile_append_dropWhile, List.reverse_reverse]
  · intro c hc
    rw [List.mem_reverse] at hc
    exact List.all_eq_true.1 List.all_takeWhile c hc

theorem exists_append_dropBlanks (s : List Char) :
    ∃ b : List Char, s = b ++ dropBlanks s ∧ ∀ c ∈ b, isBlank c = true :=
  ⟨s.takeWhile isBlank, (List.takeWhile_append_dropWhile).symm,
    fun c hc => List.all_eq_true.1 List.all_takeWhile c hc⟩

def splitOnce {α : Type} [DecidableEq α] (sep : α) (s : List α) : Option (List α × List α) :=
  match s.dropWhile (· != sep) with
  | [] => none
  | _ :: rest => some (s.takeWhile (· != sep), rest)

theorem splitOnce_append_cons {α : Type} [DecidableEq α] {sep : α} {w : List α}
    (h : sep ∉ w) (s : List α) :
    splitOnce sep (w ++ sep :: s) = some (w, s) := by
  have hne : ∀ c ∈ w, (c != sep) = true := by
    intro c hc
    apply bne_iff_ne.2
    rintro rfl
    exact h hc
  rw [splitOnce, List.dropWhile_append_of_pos hne, List.takeWhile_append_of_pos hne]
  simp only [List.dropWhile_cons, List.takeWhile_cons, bne_self_eq_false, Bool.false_eq_true,
    if_false, List.append_nil]

def cutAt (p : List Char) : List Char → Option (List Char × List Char)
  | [] => if p.isPrefixOf [] then some ([], []) else none
  | c :: s =>
    if p.isPrefixOf (c :: s) then some ([], (c :: s).drop p.length)
    else (cutAt p s).map fun (before, after) => (c :: before, after)

theorem append_of_cutAt {p s before after : List Char} (h : cutAt p s = some (before, after)) :
    s = before ++ p ++ after := by
  induction s generalizing before after with
  | nil =>
    simp only [cutAt] at h
    split at h <;> simp_all
  | cons c s ih =>
    simp only [cutAt] at h
    split at h
    · rename_i hp
      obtain ⟨r, hr⟩ := List.isPrefixOf_iff_prefix.1 hp
      simp only [Option.some.injEq, Prod.mk.injEq] at h
      obtain ⟨rfl, rfl⟩ := h
      simp [← hr]
    · obtain ⟨⟨b, a⟩, hb, hab⟩ := Option.map_eq_some_iff.1 h
      simp only [Prod.mk.injEq] at hab
      obtain ⟨rfl, rfl⟩ := hab
      simp [ih hb]

def contains (p s : List Char) : Bool := (cutAt p s).isSome

end SourceDigest.Text
