import SourceDigest.Proofs.Reply.Fence

namespace SourceDigest.Reply

open Json (Bracket Composable Doc Entry Glyph Tail isPlain ne_of_test)

theorem isOpening_opener (k : Bracket) : isOpening k.opener = true := by
  cases k <;> rfl

theorem exists_opener_of_isOpening {c : Char} (h : isOpening c = true) :
    ∃ k : Bracket, c = k.opener := by
  rw [isOpening, Bool.or_eq_true, beq_iff_eq, beq_iff_eq] at h
  rcases h with rfl | rfl
  · exact ⟨.curly, rfl⟩
  · exact ⟨.square, rfl⟩

theorem isClosingBracket_opener (k : Bracket) : isClosingBracket k.opener = false := by
  cases k <;> rfl

theorem isClosingBracket_closer (k : Bracket) : isClosingBracket k.closer = true := by
  cases k <;> rfl

theorem isOpening_eq_false_of_isPlain {c : Char} (h : isPlain c = true) : isOpening c = false := by
  rw [isOpening, Bool.or_eq_false_iff, beq_eq_false_iff_ne, beq_eq_false_iff_ne]
  exact ⟨ne_of_test h (by decide), ne_of_test h (by decide)⟩

theorem isClosingBracket_eq_false_of_isPlain {c : Char} (h : isPlain c = true) :
    isClosingBracket c = false := by
  rw [isClosingBracket, Bool.or_eq_false_iff, beq_eq_false_iff_ne, beq_eq_false_iff_ne]
  exact ⟨ne_of_test h (by decide), ne_of_test h (by decide)⟩

theorem ne_quote_of_isPlain {c : Char} (h : isPlain c = true) : c ≠ '"' := ne_of_test h (by decide)

theorem takeBalanced_inks {l : Lexical} {s : List Char} (h : Along Lexical.Inks l s) (depth : Nat)
    (t : List Char) :
    takeBalanced depth l (s ++ t) = s ++ takeBalanced depth (l.run s) t := by
  induction s generalizing l with
  | nil => rfl
  | cons c s ih =>
    have htail : takeBalanced depth (l.step c) (s ++ t) = s ++ takeBalanced depth (l.run (c :: s)) t :=
      ih h.2
    cases l with
    | outside => exact absurd rfl h.1.1
    | inString =>
      rw [List.cons_append, takeBalanced, htail]
      · rfl
      · exact fun hl => Lexical.noConfusion hl
    | escaped =>
      rw [List.cons_append, takeBalanced, htail]
      · rfl
      · exact fun hl => Lexical.noConfusion hl

def Held (s : List Char) : Prop :=
  ∀ depth t, takeBalanced (depth + 1) .outside (s ++ t) =
    s ++ takeBalanced (depth + 1) .outside t

theorem takeBalanced_opener (k : Bracket) (depth : Nat) (t : List Char) :
    takeBalanced depth .outside (k.opener :: t) =
      k.opener :: takeBalanced (depth + 1) .outside t := by
  rw [takeBalanced, isClosingBracket_opener, isOpening_opener]
  cases k <;> rfl

theorem composable_held : Composable Held where
  plain := by
    intro s h depth t
    induction s with
    | nil => rfl
    | cons c s ih =>
      have hc := h c List.mem_cons_self
      have hstep : Lexical.step .outside c = .outside := if_neg (ne_quote_of_isPlain hc)
      rw [List.cons_append, takeBalanced, isClosingBracket_eq_false_of_isPlain hc,
        isOpening_eq_false_of_isPlain hc, hstep]
      exact congrArg (c :: ·) (ih fun d hd => h d (List.mem_cons_of_mem c hd))
  quoted := by
    intro gs depth t
    have hinside := takeBalanced_inks (along_quoted gs) (depth + 1) t
    rw [run_quoted gs] at hinside
    rw [Json.quoted, List.cons_append, takeBalanced]
    show '"' :: takeBalanced (depth + 1) .inString (Json.inked gs ++ ['"'] ++ t) = _
    rw [hinside]
    rfl
  append := by
    intro s u hs hu depth t
    rw [List.append_assoc, hs, hu, List.append_assoc]
  group := by
    intro k s hs depth t
    rw [List.cons_append, List.append_assoc, takeBalanced_opener, hs (depth + 1),
      List.singleton_append, takeBalanced, isClosingBracket_closer]
    simp

theorem takeBalanced_group (k : Bracket) (es : List (Entry Doc)) (tail : Tail) (r : List Char) :
    takeBalanced 0 .outside ((Doc.group k es tail).text ++ r) = (Doc.group k es tail).text := by
  have hentries : Held (Json.commaJoin (es.map Doc.entryText)) :=
    composable_held.commaJoin (composable_held.entries fun e _ => composable_held.doc e.doc)
  have hinside := (composable_held.append hentries (composable_held.tail tail)) 0 (k.closer :: r)
  have htext : (Doc.group k es tail).text ++ r =
      k.opener :: (Json.commaJoin (es.map Doc.entryText) ++ tail.text ++ k.closer :: r) := by
    simp only [Doc.text_group, List.append_assoc, List.cons_append, List.nil_append]
  rw [htext, takeBalanced_opener, hinside, takeBalanced, isClosingBracket_closer, Doc.text_group,
    ← List.append_assoc]
  rfl

theorem takeBalanced_of_append {depth : Nat} {l : Lexical} {s t : List Char}
    (h : takeBalanced depth l (s ++ t) = s ++ t) : takeBalanced depth l s = s := by
  induction s generalizing depth l with
  | nil =>
    cases l <;> rfl
  | cons c s ih =>
    cases l with
    | outside =>
      rw [List.cons_append, takeBalanced] at h
      rw [takeBalanced]
      split at h
      · rename_i hclose
        rw [if_pos hclose]
        split at h
        · rename_i hdepth
          -- the scan stops at this bracket, so that nothing stands behind it
          have hnil : s = [] := by
            obtain ⟨-, hst⟩ := List.cons.inj h
            exact (List.append_eq_nil_iff.1 hst.symm).1
          rw [if_pos hdepth, hnil]
        · rename_i hdepth
          rw [if_neg hdepth, ih (List.cons.inj h).2]
      · rename_i hclose
        rw [if_neg hclose, ih (List.cons.inj h).2]
    | inString => exact congrArg (c :: ·) (ih (List.cons.inj h).2)
    | escaped => exact congrArg (c :: ·) (ih (List.cons.inj h).2)

theorem firstValue?_append {s t candidate : List Char} {k : Bracket}
    (hs : ∀ c ∈ s, isOpening c = false)
    (h : takeBalanced 0 .outside (k.opener :: t) = candidate) :
    firstValue? (s ++ k.opener :: t) = some candidate := by
  have hneg : ∀ c ∈ s, (!isOpening c) = true := by
    intro c hc
    rw [hs c hc]
    rfl
  have hdrop : (s ++ k.opener :: t).dropWhile (!isOpening ·) = k.opener :: t := by
    rw [List.dropWhile_append_of_pos hneg, List.dropWhile_cons_of_neg]
    rw [isOpening_opener]
    decide
  rw [firstValue?, hdrop]
  exact congrArg some h

end SourceDigest.Reply
