import SourceDigest.Proofs.Json.Comma
import SourceDigest.Proofs.Reply.Balanced

namespace SourceDigest.Reply

open Json (Additive Blanks Bracket Doc Entry Glyph Tail isPlain)
open Text (isBlank)

def Firm (written : List Char) : Prop :=
  ∀ c ∈ (written.dropWhile isBlank).head?, c ≠ ',' ∧ c ≠ ':'

theorem firm_blanks {b : List Char} (hb : ∀ c ∈ b, isBlank c = true) (w : List Char) :
    Firm (b ++ w) ↔ Firm w := by
  rw [Firm, Firm, List.dropWhile_append_of_pos hb]

theorem firm_cons {c : Char} (hc : isBlank c = false) (hcomma : c ≠ ',') (hcolon : c ≠ ':')
    (w : List Char) : Firm (c :: w) := by
  intro d hd
  rw [List.dropWhile_cons_of_neg (Bool.eq_false_iff.1 hc)] at hd
  obtain rfl : c = d := Option.some.inj hd
  exact ⟨hcomma, hcolon⟩

theorem firm_opener (k : Bracket) (w : List Char) : Firm (k.opener :: w) := by
  cases k <;> exact firm_cons (by decide) (by decide) (by decide) w

theorem firm_closing {k : Char} (hk : isClosingBracket k = true) (w : List Char) : Firm (k :: w) := by
  simp only [isClosingBracket, Bool.or_eq_true, beq_iff_eq] at hk
  rcases hk with rfl | rfl <;> exact firm_cons (by decide) (by decide) (by decide) w

theorem firm_doc (d : Doc) (w : List Char) : Firm (d.text.reverse ++ w) := by
  obtain ⟨t, c, ht, hc⟩ := d.text_ends
  rw [ht, List.reverse_append, List.reverse_singleton, List.singleton_append, List.cons_append]
  rcases hc with hc | rfl | ⟨k, rfl⟩
  · apply firm_cons (Json.isBlank_eq_false_of_isWordChar hc)
    · exact Json.ne_of_test hc (by decide)
    · exact Json.ne_of_test hc (by decide)
  · exact firm_cons (by decide) (by decide) (by decide) _
  · exact firm_closing (isClosingBracket_closer k) _

theorem dropComma_of_firm {w : List Char} (h : Firm w) : dropComma w = w := by
  unfold dropComma
  split
  · rename_i r hr
    have hcomma := h ',' (by rw [hr]; rfl)
    exact absurd rfl hcomma.1
  · rfl

theorem dropKey_of_firm {w : List Char} (h : Firm w) (b : List Char) : Scan.dropKey b w = w := by
  unfold Scan.dropKey
  split
  · rename_i hcolon
    exact absurd rfl (h ':' hcolon).2
  · rfl

theorem dropComma_comma {b : List Char} (hb : ∀ c ∈ b, isBlank c = true) (w : List Char) :
    dropComma (b ++ ',' :: w) = w := by
  unfold dropComma
  rw [List.dropWhile_append_of_pos hb, List.dropWhile_cons_of_neg (by decide)]
  rfl

theorem firm_commaJoin {es : List (Entry Doc)} (hes : es ≠ []) (w : List Char) :
    Firm ((Json.commaJoin (es.map Doc.entryText)).reverse ++ w) := by
  obtain ⟨done, e, rfl⟩ := (List.eq_nil_or_concat' es).resolve_left hes
  rw [List.map_append, List.map_cons, List.map_nil, Json.commaJoin_append _ (by simp)]
  have htext : Json.commaJoin [Doc.entryText e] = e.head ++ (e.doc.text ++ e.after.chars) :=
    List.append_nil _
  rw [htext]
  simp only [List.reverse_append, List.append_assoc]
  rw [firm_blanks (Text.reverse_isBlank e.after.isBlank)]
  exact firm_doc e.doc _

theorem scan_inks (w ks b : List Char) {l : Lexical} {s : List Char} (h : Along Lexical.Inks l s) :
    Scan.run ⟨w, ks, l, b⟩ s = ⟨s.reverse ++ w, ks, l.run s, b⟩ := by
  induction s generalizing w l with
  | nil => rfl
  | cons c s ih =>
    have hstep : Scan.step ⟨w, ks, l, b⟩ c = ⟨c :: w, ks, l.step c, b⟩ := by
      unfold Scan.step
      split
      · rename_i houtside
        exact absurd houtside h.1.1
      · rfl
    show (Scan.step ⟨w, ks, l, b⟩ c).run s = _
    rw [hstep, ih (c :: w) h.2, List.reverse_cons, List.append_assoc]
    rfl

theorem scan_plain (w ks b : List Char) {s : List Char} (h : ∀ c ∈ s, isPlain c = true) :
    Scan.run ⟨w, ks, .outside, b⟩ s = ⟨s.reverse ++ w, ks, .outside, b⟩ := by
  induction s generalizing w with
  | nil => rfl
  | cons c s ih =>
    have hc := h c List.mem_cons_self
    have hstep : Scan.step ⟨w, ks, .outside, b⟩ c = ⟨c :: w, ks, .outside, b⟩ := by
      unfold Scan.step
      simp only [if_neg (ne_quote_of_isPlain hc), isOpening_eq_false_of_isPlain hc,
        isClosingBracket_eq_false_of_isPlain hc, Bool.false_eq_true, if_false]
    show (Scan.step ⟨w, ks, .outside, b⟩ c).run s = _
    rw [hstep, ih (c :: w) fun d hd => h d (List.mem_cons_of_mem c hd), List.reverse_cons,
      List.append_assoc]
    rfl

theorem scan_quoted (w ks b : List Char) (gs : List Glyph) :
    Scan.run ⟨w, ks, .outside, b⟩ (Json.quoted gs) =
      ⟨(Json.quoted gs).reverse ++ w, ks, .outside, w⟩ := by
  have hinside := scan_inks ('"' :: w) ks w (along_quoted gs)
  rw [run_quoted] at hinside
  show Scan.run ⟨'"' :: w, ks, .inString, w⟩ (Json.inked gs ++ ['"']) = _
  rw [hinside, Json.quoted, List.reverse_cons, List.append_assoc]
  rfl

theorem scan_opener (k : Bracket) (w ks b : List Char) :
    Scan.run ⟨w, ks, .outside, b⟩ [k.opener] = ⟨k.opener :: w, k.closer :: ks, .outside, b⟩ := by
  cases k <;> rfl

theorem scan_closer (k : Bracket) (w ks b : List Char) :
    Scan.run ⟨w, k.closer :: ks, .outside, b⟩ [k.closer] =
      ⟨k.closer :: dropComma w, ks, .outside, b⟩ := by
  cases k <;> rfl

def Rewrites (s t : List Char) : Prop :=
  ∀ w ks b, ∃ b', Scan.run ⟨w, ks, .outside, b⟩ s = ⟨t.reverse ++ w, ks, .outside, b'⟩

theorem Rewrites.append {s s' t t' : List Char} (h : Rewrites s t) (h' : Rewrites s' t') :
    Rewrites (s ++ s') (t ++ t') := by
  intro w ks b
  obtain ⟨b', hrun⟩ := h w ks b
  obtain ⟨b'', hrun'⟩ := h' (t.reverse ++ w) ks b'
  refine ⟨b'', ?_⟩
  rw [Scan.run_append, hrun, hrun', List.reverse_append, List.append_assoc]

abbrev Copies (s : List Char) : Prop := Rewrites s s

theorem additive_copies : Additive Copies where
  plain h w ks b := ⟨b, scan_plain w ks b h⟩
  quoted gs w ks b := ⟨w, scan_quoted w ks b gs⟩
  append := Rewrites.append

theorem firm_inside (es : List (Entry Doc)) {b : List Char} (hb : ∀ c ∈ b, isBlank c = true)
    (k : Bracket) (w : List Char) :
    Firm ((Json.commaJoin (es.map Doc.entryText) ++ b).reverse ++ k.opener :: w) := by
  rw [List.reverse_append, List.append_assoc, firm_blanks (Text.reverse_isBlank hb)]
  by_cases hes : es = []
  · subst hes
    exact firm_opener k w
  · exact firm_commaJoin hes _

theorem text_of_not_comma {tail : Tail} (h : tail.comma = false) : tail.text = tail.blanks.chars := by
  rw [Tail.text, h]
  rfl

theorem rewrites_commaJoin {f : Doc → Doc} {es : List (Entry Doc)}
    (h : ∀ e ∈ es, Rewrites e.doc.text (f e.doc).text) :
    Rewrites (Json.commaJoin (es.map Doc.entryText))
      (Json.commaJoin ((es.map (Entry.map f)).map Doc.entryText)) := by
  have hentry : ∀ e ∈ es, Rewrites (Doc.entryText e) (Doc.entryText (e.map f)) := by
    intro e he
    exact (additive_copies.head e).append ((h e he).append (additive_copies.blanks e.after))
  have hlater : ∀ fs ⊆ es, Rewrites ((fs.map Doc.entryText).flatMap (',' :: ·))
      (((fs.map (Entry.map f)).map Doc.entryText).flatMap (',' :: ·)) := by
    intro fs
    induction fs with
    | nil => exact fun _ => additive_copies.nil
    | cons e fs ih =>
      intro hfs
      obtain ⟨he, hrest⟩ := List.cons_subset.1 hfs
      exact additive_copies.comma.append (hentry e he) |>.append (ih hrest)
  cases es with
  | nil => exact additive_copies.nil
  | cons e es =>
    exact (hentry e List.mem_cons_self).append (hlater es (List.subset_cons_self e es))

theorem dropComma_inside (es : List (Entry Doc)) (tail : Tail) (k : Bracket) (w : List Char) :
    dropComma ((Json.commaJoin (es.map Doc.entryText) ++ tail.text).reverse ++ k.opener :: w) =
      (Json.commaJoin (es.map Doc.entryText) ++ tail.plain.text).reverse ++ k.opener :: w := by
  obtain ⟨comma, blanks⟩ := tail
  cases comma with
  | false => exact dropComma_of_firm (firm_inside es blanks.isBlank k w)
  | true =>
    have hdrop := dropComma_comma (Text.reverse_isBlank blanks.isBlank)
      ((Json.commaJoin (es.map Doc.entryText)).reverse ++ k.opener :: w)
    simpa [Tail.text, Tail.plain, Blanks.none] using hdrop

theorem rewrites_plain (d : Doc) : Rewrites d.text d.plain.text := by
  -- a closing bracket drops a comma before it, and changes nothing else
  induction d using Doc.induct with
  | word w => exact additive_copies.word w
  | string gs => exact additive_copies.quoted gs
  | group k es tail ih =>
    have hinside := (rewrites_commaJoin ih).append (additive_copies.tail tail)
    intro w ks b
    obtain ⟨b', hrun⟩ := hinside (k.opener :: w) (k.closer :: ks) b
    refine ⟨b', ?_⟩
    rw [Doc.plain_group, Doc.text_group, Doc.text_group, ← List.singleton_append,
      ← List.append_assoc _ _ [_], Scan.run_append, scan_opener, Scan.run_append, hrun, scan_closer,
      dropComma_inside]
    simp only [List.reverse_append, List.reverse_cons, List.reverse_nil, List.nil_append,
      List.append_assoc, List.cons_append]

theorem copies_doc {d : Doc} (hd : d.Strict) : Copies d.text := by
  have hrewrites := rewrites_plain d
  rwa [Doc.plain_of_strict hd] at hrewrites

end SourceDigest.Reply
