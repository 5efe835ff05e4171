import SourceDigest.Proofs.Reply.TrailingCommas
import SourceDigest.Proofs.Reply.Unwrapping

namespace SourceDigest.Reply

open Json (Blanks Bracket Doc Entry Glyph Tail Value)
open Text (EndsSolid dropBlanks dropEndBlanks isBlank trimChars)

section Fences

theorem exists_of_isClosing {t : List Char} (h : isClosing t = true) :
    ∃ b ∈ lineBreaks, ∃ r, t = b ++ r ∧ ticks.isPrefixOf (r.dropWhile isGap) = true := by
  unfold isClosing at h
  split at h
  · rename_i r hr
    obtain ⟨b, hb, rfl⟩ := afterBreak?_eq_some_iff.1 hr
    exact ⟨b, hb, r, rfl, h⟩
  · cases h

theorem not_ticks_dropWhile {s : List Char} (h : ¬ ticks <:+: s) (f : Char → Bool) :
    ¬ ticks <:+: s.dropWhile f := fun hrun => h (hrun.trans (List.dropWhile_suffix f).isInfix)

theorem not_ticks_gap_of_not_ticks {s : List Char} (h : ¬ ticks <:+: s) :
    ticks.isPrefixOf (s.dropWhile isGap) = false := by
  apply Bool.eq_false_iff.2
  intro hopens
  exact not_ticks_dropWhile h isGap (List.isPrefixOf_iff_prefix.1 hopens).isInfix

theorem isClosing_of_not_ticks {s : List Char} (h : ¬ ticks <:+: s) : isClosing s = false := by
  apply Bool.eq_false_iff.2
  intro hclose
  obtain ⟨b, -, r, rfl, hopens⟩ := exists_of_isClosing hclose
  have hrest : ¬ ticks <:+: r := fun hrun => h (hrun.trans (List.suffix_append b r).isInfix)
  rw [not_ticks_gap_of_not_ticks hrest] at hopens
  cases hopens

theorem isBlank_of_lineBreak {b : List Char} (hb : b ∈ lineBreaks) : ∀ c ∈ b, isBlank c = true := by
  simp only [lineBreaks, List.mem_cons, List.not_mem_nil, or_false] at hb
  rcases hb with rfl | rfl <;> exact List.all_eq_true.1 rfl

theorem isClosing_solid {p s : List Char} {c : Char} (hp : ¬ ticks <:+: p)
    (hblank : isBlank c = false) (htick : c ≠ '\x60') : isClosing (p ++ c :: s) = false := by
  have hgap : ¬ isGap c = true := by
    intro hgap
    simp only [isGap, Bool.or_eq_true, beq_iff_eq] at hgap
    rcases hgap with rfl | rfl <;> cases hblank
  have hsolid : ticks.isPrefixOf ((c :: s).dropWhile isGap) = false := by
    rw [List.dropWhile_cons_of_neg hgap, ticks, List.isPrefixOf,
      beq_eq_false_iff_ne.2 (Ne.symm htick), Bool.false_and]
  apply Bool.eq_false_iff.2
  intro hclose
  obtain ⟨b, hb, r, htext, hopens⟩ := exists_of_isClosing hclose
  rcases List.append_eq_append_iff.1 htext with ⟨q, rfl, hq⟩ | ⟨q, rfl, rfl⟩
  · cases q with
    | nil =>
      rw [← show c :: s = r from hq, hsolid] at hopens
      cases hopens
    | cons d q =>
      obtain ⟨rfl, -⟩ := List.cons.inj hq
      have hbreak := isBlank_of_lineBreak hb c (List.mem_append_right p List.mem_cons_self)
      rw [hblank] at hbreak
      cases hbreak
  · have hq : ¬ ticks <:+: q := fun h => hp (h.trans (List.suffix_append b q).isInfix)
    rw [not_ticks_gap_append hq hsolid fun d hd => Option.some.inj hd ▸ htick] at hopens
    cases hopens

theorem not_closing_around {p s : List Char} (hp : ¬ ticks <:+: p) (hs : ¬ ticks <:+: s) (d : Doc) :
    ∀ t, t <:+ p ++ (d.text ++ s) → isClosing t = false := by
  obtain ⟨c, rest, htext, hblank, htick⟩ := d.text_starts_solid
  rintro t ⟨u, hu⟩
  rcases List.append_eq_append_iff.1 hu with ⟨q, rfl, rfl⟩ | ⟨q, -, hq⟩
  · have hq : ¬ ticks <:+: q := fun h => hp (h.trans (List.suffix_append u q).isInfix)
    rw [htext, List.cons_append]
    exact isClosing_solid hq hblank htick
  · rcases List.append_eq_append_iff.1 hq with ⟨x, rfl, rfl⟩ | ⟨x, hx, rfl⟩
    · exact isClosing_of_not_ticks fun h => hs (h.trans (List.suffix_append x t).isInfix)
    · cases x with
      | nil => exact isClosing_of_not_ticks hs
      | cons e x =>
        -- only the return of a line break could belong to the document, which ends solid
        have htidy : Tidy (Lexical.outside.run q) (e :: x) := by
          have hdoc := (composable_passes.doc d).along
          rw [hx] at hdoc
          exact (along_append.1 hdoc).2
        apply Bool.eq_false_iff.2
        intro hclose
        obtain ⟨rfl, rfl, -⟩ :=
          eq_return_of_isClosing htidy (not_ticks_gap_of_not_ticks hs) hclose
        obtain ⟨y, e, hy, he⟩ := d.text_endsSolid
        rw [hx] at hy
        obtain ⟨-, hreturn⟩ := List.append_inj' hy rfl
        obtain ⟨rfl, -⟩ := List.cons.inj hreturn
        cases he

theorem body_around {p s : List Char} (hp : ¬ ticks <:+: p) (hs : ¬ ticks <:+: s) (d : Doc) :
    body (p ++ (d.text ++ s)) = p ++ (d.text ++ s) := by
  obtain ⟨c, rest, htext, -, htick⟩ := d.text_starts_solid
  apply body_of_not_closing (not_closing_around hp hs d)
  apply ticks_append_eq_false hp
  intro e he
  rw [htext] at he
  exact Option.some.inj he ▸ htick

end Fences

section Strings

theorem run_opener_quote {l : Lexical} (hl : l ≠ .outside) (k : Bracket) (b : Blanks) :
    l.run (k.opener :: (b.chars ++ ['"'])) = .outside := by
  have hopener : l.step k.opener = .inString := by
    cases l with
    | outside => exact absurd rfl hl
    | inString => cases k <;> rfl
    | escaped => rfl
  have hblanks : Passes (fun _ _ => True) .inString b.chars := by
    apply passes_of_forall
    intro c hc
    have hspace := b.blank c hc
    have hslash : c ≠ '\\' := Json.ne_of_test hspace (by decide)
    have hquote : c ≠ '"' := Json.ne_of_test hspace (by decide)
    exact ⟨trivial, by rw [Lexical.step, if_neg hslash, if_neg hquote]⟩
  show (l.step k.opener).run (b.chars ++ ['"']) = .outside
  rw [hopener, Lexical.run_append, hblanks.run]
  rfl

theorem isSpace_of_inner_quote {gs : List Glyph} {trail b : Blanks} {u v : List Char} {k : Bracket}
    (h : Json.inked gs ++ '"' :: trail.chars = u ++ k.opener :: (b.chars ++ '"' :: v)) :
    ∀ c ∈ v, Json.isSpace c = true := by
  have htext : (Json.inked gs ++ ['"']) ++ trail.chars
      = (u ++ k.opener :: (b.chars ++ ['"'])) ++ v := by
    simpa using h
  rcases List.append_eq_append_iff.1 htext with ⟨x, -, hblank⟩ | ⟨x, hx, rfl⟩
  · intro c hc
    exact trail.blank c (hblank ▸ List.mem_append_right x hc)
  · have halong := along_quoted gs
    rw [hx, List.append_assoc, along_append, List.cons_append] at halong
    obtain ⟨-, hopener, hrest⟩ := halong
    have hquote := run_opener_quote hopener.1 k b
    have hbehind : Along Lexical.Inks .outside x := by
      have hwhole : Along Lexical.Inks (Lexical.inString.run u)
          ((k.opener :: (b.chars ++ ['"'])) ++ x) := ⟨hopener, hrest⟩
      rw [along_append, hquote] at hwhole
      exact hwhole.2
    cases x with
    | nil => exact trail.blank
    | cons c x => exact absurd rfl hbehind.1.1

end Strings

section Values

variable {k : Bracket} {v : List Char} {b : Blanks}

theorem not_json_of_front {c : Char} {p s : List Char} {w : Value}
    (hp : ∀ d ∈ c :: p, isOpening d = false) (hblank : isBlank c = false)
    (hv : ∃ d ∈ v, Json.isSpace d = false) :
    Json.parse (c :: p ++ (k.opener :: (b.chars ++ '"' :: v) ++ s)) ≠ .ok w := by
  by_cases hquote : c = '"'
  · subst hquote
    intro h
    obtain ⟨lead, trail, doc, htext, -, -, -⟩ := Json.exists_lays_of_parse h
    have hlead : lead.chars = [] := lead_eq_nil hblank htext
    rw [hlead, List.nil_append] at htext
    cases doc with
    | word w =>
      obtain ⟨d, t, hd, -⟩ := w.exists_head
      have hword : w.text ++ trail.chars = _ := htext.symm
      rw [hd] at hword
      obtain ⟨rfl, -⟩ := List.cons.inj hword
      have hplain := w.plain '"' (hd ▸ List.mem_cons_self)
      cases hplain
    | string gs =>
      have hinked : Json.inked gs ++ '"' :: trail.chars
          = p ++ k.opener :: (b.chars ++ '"' :: (v ++ s)) := by
        have hquoted : Json.quoted gs ++ trail.chars = _ := htext.symm
        simpa [Json.quoted] using hquoted
      obtain ⟨d, hd, hsolid⟩ := hv
      have hspace := isSpace_of_inner_quote hinked d (List.mem_append_left s hd)
      rw [hsolid] at hspace
      cases hspace
    | group k' es tail =>
      rw [Doc.text_group] at htext
      obtain ⟨hopener, -⟩ := List.cons.inj htext
      cases k' <;> cases hopener
  · rw [List.cons_append]
    exact not_json_of_prose hp hblank hquote

theorem parseBody_of_candidate {body candidate : List Char} {v : Value}
    (hfirst : firstValue? body = some candidate) (hbody : ∀ w, Json.parse body = .ok w → w = v)
    (h : Json.parse candidate = .ok v) : parseBody body = .ok v := by
  unfold parseBody
  cases hparse : Json.parse body with
  | ok w => rw [hbody w hparse]
  | error f => simp only [hfirst, h]

theorem trimChars_text (d : Doc) : trimChars d.text = d.text := by
  have htrim := trimChars_doc .none .none d
  rwa [Blanks.none, List.nil_append, List.append_nil] at htrim

section Reads

variable {d : Doc} (hstrict : d.Strict) (hheight : d.height ≤ Json.depthLimit)

include hstrict hheight

theorem parse_doc : parse (String.ofList d.text) = .ok d.value := by
  rw [parse, String.toList_ofList, trimChars_text, body_doc, parseBody,
    Json.parse_doc_text hstrict hheight]

theorem parse_fenced_doc {p tag first last : List Char} (hp : ¬ ticks <:+: p)
    (htag : ∀ c ∈ tag, isTagChar c = true) (hfirst : first ∈ lineBreaks) (hlast : last ∈ lineBreaks)
    (s : List Char) :
    parse (String.ofList
      (p ++ (ticks ++ (tag ++ (first ++ (d.text ++ (last ++ (ticks ++ s)))))))) = .ok d.value := by
  have hfront : ¬ ticks <:+: dropBlanks p := not_ticks_dropWhile hp isBlank
  have htrim := trimChars_ticks p (tag ++ (first ++ (d.text ++ last))) s
  have hbody := body_fenced (composable_passes.doc d) hfront htag hfirst hlast (dropEndBlanks s)
  simp only [List.append_assoc] at htrim
  rw [parse, String.toList_ofList, htrim, hbody, trimChars_text, parseBody,
    Json.parse_doc_text hstrict hheight]

theorem parseBody_around (htext : d.text = k.opener :: (b.chars ++ '"' :: v))
    (hv : ∃ c ∈ v, Json.isSpace c = false) {p : List Char} (hbracket : ∀ c ∈ p, isOpening c = false)
    (hhead : ∀ c ∈ p.head?, isBlank c = false) (s : List Char) :
    parseBody (p ++ (d.text ++ s)) = .ok d.value := by
  obtain ⟨k', es, tail, rfl⟩ := Doc.exists_group_of_opener htext
  have hparse := Json.parse_doc_text hstrict hheight
  have hbalanced := takeBalanced_group k' es tail s
  apply parseBody_of_candidate _ _ hparse
  · rw [htext, List.cons_append] at hbalanced ⊢
    exact firstValue?_append hbracket hbalanced
  · intro w hw
    cases p with
    | nil =>
      have hself := parse_group_of_append hw
      rw [hparse] at hself
      exact (Except.ok.inj hself).symm
    | cons c p =>
      rw [htext] at hw
      exact absurd hw (not_json_of_front hbracket (hhead c rfl) hv)

theorem parse_prose (htext : d.text = k.opener :: (b.chars ++ '"' :: v))
    (hv : ∃ c ∈ v, Json.isSpace c = false) {p s : List Char}
    (hbracket : ∀ c ∈ p, isOpening c = false) (hp : ¬ ticks <:+: p) (hs : ¬ ticks <:+: s) :
    parse (String.ofList (p ++ (d.text ++ s))) = .ok d.value := by
  have hfront : ¬ ticks <:+: dropBlanks p := not_ticks_dropWhile hp isBlank
  have hback : ¬ ticks <:+: dropEndBlanks s := by
    obtain ⟨b, hb, -⟩ := Text.exists_dropEndBlanks_append s
    intro hrun
    rw [hb] at hs
    exact hs (hrun.trans (List.prefix_append _ b).isInfix)
  have htrim : trimChars (p ++ (d.text ++ s)) = dropBlanks p ++ (d.text ++ dropEndBlanks s) := by
    have hends := d.text_endsSolid
    rw [htext] at hends ⊢
    exact Text.trimChars_around (isBlank_opener k) hends p s
  rw [parse, String.toList_ofList, htrim, body_around hfront hback]
  apply parseBody_around hstrict hheight htext hv
  · intro c hc
    exact hbracket c ((List.dropWhile_suffix isBlank).subset hc)
  · intro c hc
    exact Text.isBlank_of_head_dropBlanks hc

end Reads

end Values

end SourceDigest.Reply
