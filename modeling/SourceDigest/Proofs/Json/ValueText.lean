import SourceDigest.Proofs.Json.StringText

namespace SourceDigest.Json

theorem skipSpace_cons {c : Char} (hc : isSpace c = false) (s : List Char) :
    skipSpace (c :: s) = c :: s :=
  List.dropWhile_cons_of_neg (Bool.eq_false_iff.1 hc)

theorem exists_blanks_append (s : List Char) : ∃ b : Blanks, s = b.chars ++ skipSpace s :=
  ⟨⟨s.takeWhile isSpace, fun _ hc => List.all_eq_true.1 List.all_takeWhile _ hc⟩,
    (List.takeWhile_append_dropWhile).symm⟩

theorem isSpace_eq_false_of_skipSpace {c : Char} {s r : List Char} (h : skipSpace s = c :: r) :
    isSpace c = false := by
  have hne : skipSpace s ≠ [] := by
    rw [h]
    exact List.cons_ne_nil c r
  have hc := List.head_dropWhile_not isSpace hne
  simp only [skipSpace] at h
  simpa only [h, List.head_cons] using hc

theorem readWord_eq_ok_iff {w s r : List Char} {v a : Value} :
    readWord w v s = .ok (a, r) ↔ s = w ++ r ∧ a = v := by
  induction w generalizing s with
  | nil =>
    constructor
    · intro h
      cases h
      exact ⟨rfl, rfl⟩
    · rintro ⟨rfl, rfl⟩
      rfl
  | cons c w ih =>
    cases s with
    | nil =>
      constructor
      · intro h
        cases h
      · rintro ⟨h, -⟩
        cases h
    | cons d s =>
      rw [readWord]
      by_cases hc : d = c
      · subst hc
        simp only [if_true, List.cons_append, List.cons.injEq, true_and]
        exact ih
      · simp only [List.cons_append, List.cons.injEq, hc, false_and]
        constructor
        · intro h
          cases h
        · intro h
          exact h.elim

theorem readWord_word {w s r : List Char} {v a : Value} (hw : ∀ c ∈ w, isWordChar c = true)
    (h : readWord w v s = .ok (a, r)) : TakesWord (readWord w v) s a r := by
  obtain ⟨rfl, rfl⟩ := readWord_eq_ok_iff.1 h
  exact ⟨w, rfl, hw, fun t _ => readWord_eq_ok_iff.2 ⟨rfl, rfl⟩⟩

theorem readNumber_map_word {positive : Bool} {s r : List Char} {v : Value}
    (h : (readNumber positive s).map (fun (n, r) => (Value.number n, r)) = .ok (v, r)) :
    TakesWord (fun s => (readNumber positive s).map fun (n, r) => (Value.number n, r)) s v r := by
  cases hn : readNumber positive s with
  | error f =>
    rw [hn] at h
    cases h
  | ok x =>
    obtain ⟨n, t⟩ := x
    rw [hn] at h
    cases h
    obtain ⟨u, hs, hu, ht⟩ := readNumber_word hn
    refine ⟨u, hs, hu, ?_⟩
    intro t hstop
    show (readNumber positive (u ++ t)).map _ = _
    rw [ht t hstop]
    rfl

theorem isSpace_eq_false_of_isWordChar {c : Char} (hc : isWordChar c = true) :
    isSpace c = false := by
  rw [isSpace]
  simp only [Bool.or_eq_false_iff, beq_eq_false_iff_ne]
  refine ⟨⟨⟨?_, ?_⟩, ?_⟩, ?_⟩
  all_goals exact ne_of_test hc (by decide)

section Heads

variable (d : Nat) (s : List Char)

theorem readValue_null : readValue d ('n' :: s) = readWord ['u', 'l', 'l'] .null s := by
  rw [readValue]
  rfl

theorem readValue_true : readValue d ('t' :: s) = readWord ['r', 'u', 'e'] (.bool true) s := by
  rw [readValue]
  rfl

theorem readValue_false :
    readValue d ('f' :: s) = readWord ['a', 'l', 's', 'e'] (.bool false) s := by
  rw [readValue]
  rfl

theorem readValue_minus :
    readValue d ('-' :: s) = (readNumber false s).map fun (n, r) => (.number n, r) := by
  rw [readValue]
  rfl

theorem readValue_quote :
    readValue d ('"' :: s) = (readString s).map fun (k, r) => (.string k, r) := by
  rw [readValue]
  rfl

theorem readValue_square : readValue (d + 1) ('[' :: s) =
    (readParts (nextElement (readValue d)) (s.length + 1) true s).map
      fun (items, r) => (.array items, r) := by
  rw [readValue]
  rfl

theorem readValue_curly : readValue (d + 1) ('\x7b' :: s) =
    (readParts (nextMember (readValue d)) (s.length + 1) true s).map
      fun (members, r) => (Value.ofMembers members, r) := by
  rw [readValue]
  rfl

theorem readValue_digit {c : Char} (hc : c.isDigit = true) :
    readValue d (c :: s) = (readNumber true (c :: s)).map fun (n, r) => (.number n, r) := by
  have hspace := isSpace_eq_false_of_isWordChar (isWordChar_of_isDigit hc)
  rw [readValue, skipSpace_cons hspace]
  split
  all_goals rename_i heq
  all_goals cases heq
  all_goals first | cases hc | exact if_pos hc

end Heads

theorem readValue_head {c : Char} {d : Nat} {s r : List Char} {v : Value} (hc : isSpace c = false)
    (h : readValue d (c :: s) = .ok (v, r)) :
    (c = 'n' ∨ c = 't' ∨ c = 'f' ∨ c = '-' ∨ c.isDigit = true) ∨ c = '"' ∨
      (c = '[' ∨ c = '\x7b') ∧ 0 < d := by
  rw [readValue, skipSpace_cons hc] at h
  split at h
  all_goals rename_i heq
  all_goals cases heq
  · exact Or.inl (Or.inl rfl)
  · exact Or.inl (Or.inr (Or.inl rfl))
  · exact Or.inl (Or.inr (Or.inr (Or.inl rfl)))
  · exact Or.inr (Or.inl rfl)
  · cases d with
    | zero => cases h
    | succ d => exact Or.inr (Or.inr ⟨Or.inl rfl, Nat.succ_pos d⟩)
  · cases d with
    | zero => cases h
    | succ d => exact Or.inr (Or.inr ⟨Or.inr rfl, Nat.succ_pos d⟩)
  · exact Or.inl (Or.inr (Or.inr (Or.inr (Or.inl rfl))))
  · split at h
    · rename_i hdigit
      exact Or.inl (Or.inr (Or.inr (Or.inr (Or.inr hdigit))))
    · cases h

theorem readValue_word {c : Char} {d : Nat} {s r : List Char} {v : Value}
    (hc : c = 'n' ∨ c = 't' ∨ c = 'f' ∨ c = '-' ∨ c.isDigit = true)
    (h : readValue d (c :: s) = .ok (v, r)) (d' : Nat) :
    TakesWord (readValue d') (c :: s) v r := by
  rcases hc with rfl | rfl | rfl | rfl | hc
  · rw [readValue_null] at h
    exact TakesWord.cons rfl (readValue_null d') (readWord_word (List.all_eq_true.1 (by decide)) h)
  · rw [readValue_true] at h
    exact TakesWord.cons rfl (readValue_true d') (readWord_word (List.all_eq_true.1 (by decide)) h)
  · rw [readValue_false] at h
    exact TakesWord.cons rfl (readValue_false d') (readWord_word (List.all_eq_true.1 (by decide)) h)
  · rw [readValue_minus] at h
    exact TakesWord.cons rfl (readValue_minus d') (readNumber_map_word h)
  · rw [readValue_digit d s hc] at h
    obtain ⟨u, hs, hu, ht⟩ := readNumber_map_word h
    refine ⟨u, hs, hu, ?_⟩
    intro t hstop
    rw [← ht t hstop]
    cases u with
    | nil => cases ht [] stops_nil
    | cons e u =>
      cases hs
      exact readValue_digit d' _ hc

theorem Word.exists_head (w : Word) : ∃ c t, w.text = c :: t ∧
    (c = 'n' ∨ c = 't' ∨ c = 'f' ∨ c = '-' ∨ c.isDigit = true) := by
  obtain ⟨c, t, ht⟩ := List.exists_cons_of_ne_nil w.text_ne_nil
  have hc : isWordChar c = true := w.plain c (ht ▸ List.mem_cons_self)
  have hreads := w.reads
  rw [ht] at hreads
  refine ⟨c, t, ht, ?_⟩
  rcases readValue_head (isSpace_eq_false_of_isWordChar hc) hreads with hword | rfl | ⟨-, hpos⟩
  · exact hword
  · cases hc
  · exact absurd hpos (Nat.lt_irrefl 0)

theorem readValue_word_append (w : Word) (d : Nat) {r : List Char} (hr : Stops r) :
    readValue d (w.text ++ r) = .ok (w.value, r) := by
  obtain ⟨c, t, ht, hc⟩ := w.exists_head
  have hreads := w.reads
  rw [ht] at hreads
  obtain ⟨u, hu, -, htakes⟩ := readValue_word hc hreads d
  rw [List.append_nil] at hu
  rw [ht, hu]
  exact htakes r hr

end SourceDigest.Json
