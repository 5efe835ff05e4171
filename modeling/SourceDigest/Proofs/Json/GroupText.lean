import SourceDigest.Proofs.Json.ValueText

namespace SourceDigest.Json

structure Reads (d : Nat) : Prop where
  sound {s r : List Char} {v : Value} (h : readValue d s = .ok (v, r)) :
    ∃ (b : Blanks) (doc : Doc), s = b.chars ++ (doc.text ++ r) ∧ doc.value = v ∧ doc.Strict ∧
      doc.height ≤ d
  complete {doc : Doc} {r : List Char} (strict : doc.Strict) (height : doc.height ≤ d)
    (stops : Stops r) : readValue d (doc.text ++ r) = .ok (doc.value, r)

section Groups

variable {α : Type}

structure Sound (k : Bracket) (d : Nat) (e : Entry Doc) : Prop where
  fits : k.Fits e.label
  strict : e.doc.Strict
  height : e.doc.height ≤ d

def separator (first : Bool) : List Char := if first then [] else [',']

structure ReadsEntries (k : Bracket) (d : Nat) (step : Bool → List Char → Reading (Option α))
    (out : String × Value → α) : Prop where
  closed {first : Bool} {s r : List Char} (h : step first s = .ok (none, r)) :
    ∃ b : Blanks, s = b.chars ++ k.closer :: r
  closes (first : Bool) (b : Blanks) (r : List Char) :
    step first (b.chars ++ k.closer :: r) = .ok (none, r)
  took {first : Bool} {s r : List Char} {a : α} (h : step first s = .ok (some a, r)) :
    ∃ (b : Blanks) (e : Entry Doc), Sound k d e ∧ out (e.key, e.doc.value) = a ∧
      s = b.chars ++ (separator first ++ (e.head ++ (e.doc.text ++ r)))
  takes (first : Bool) (b : Blanks) {e : Entry Doc} {r : List Char} (h : Sound k d e)
    (stops : Stops r) :
    step first (b.chars ++ (separator first ++ (e.head ++ (e.doc.text ++ r)))) =
      .ok (some (out (e.key, e.doc.value)), r)

def Entry.widen {δ : Type} (e : Entry δ) (before after : Blanks) : Entry δ :=
  match e with
  | ⟨none, b, d, _⟩ => ⟨none, before.append b, d, after⟩
  | ⟨some l, b, d, _⟩ => ⟨some { l with before := before.append l.before }, b, d, after⟩

theorem Doc.entryText_widen (e : Entry Doc) (before after : Blanks) :
    Doc.entryText (e.widen before after) =
      before.chars ++ (e.head ++ (e.doc.text ++ after.chars)) := by
  obtain ⟨l, b, d, a⟩ := e
  cases l with
  | none =>
    simp only [Doc.entryText, Entry.widen, Entry.head, Blanks.append, List.append_assoc,
      List.nil_append]
  | some l =>
    simp only [Doc.entryText, Entry.widen, Entry.head, Label.text, Blanks.append, List.append_assoc]

theorem Entry.key_widen {δ : Type} (e : Entry δ) (before after : Blanks) :
    (e.widen before after).key = e.key := by
  obtain ⟨l, b, d, a⟩ := e
  cases l <;> rfl

theorem Entry.doc_widen {δ : Type} (e : Entry δ) (before after : Blanks) :
    (e.widen before after).doc = e.doc := by
  obtain ⟨l, b, d, a⟩ := e
  cases l <;> rfl

theorem Sound.widen {k : Bracket} {d : Nat} {e : Entry Doc} (h : Sound k d e)
    (before after : Blanks) : Sound k d (e.widen before after) := by
  obtain ⟨l, b, doc, a⟩ := e
  cases l with
  | none => exact ⟨h.fits, h.strict, h.height⟩
  | some l => exact ⟨h.fits, h.strict, h.height⟩

theorem stops_blanks (b : Blanks) {r : List Char} (hr : Stops r) : Stops (b.chars ++ r) := by
  obtain ⟨s, hs⟩ := b
  cases s with
  | nil => exact hr
  | cons c s =>
    intro d hd
    obtain rfl : c = d := Option.some.inj hd
    have hc := hs c List.mem_cons_self
    simp only [isSpace, Bool.or_eq_true, beq_iff_eq] at hc
    rcases hc with ((rfl | rfl) | rfl) | rfl <;> decide

theorem stops_closer (k : Bracket) (r : List Char) : Stops (k.closer :: r) := by
  intro c hc
  obtain rfl : k.closer = c := Option.some.inj hc
  cases k <;> decide

theorem stops_comma (r : List Char) : Stops (',' :: r) := by
  intro c hc
  obtain rfl : ',' = c := Option.some.inj hc
  decide

theorem stops_after (after : Blanks) (es : List (Entry Doc)) (tail : Blanks) (k : Bracket)
    (r : List Char) :
    Stops (after.chars ++
      ((es.map Doc.entryText).flatMap (',' :: ·) ++ (tail.chars ++ k.closer :: r))) := by
  apply stops_blanks
  cases es with
  | nil => exact stops_blanks tail (stops_closer k r)
  | cons d es => exact stops_comma _

namespace ReadsEntries

variable {k : Bracket} {d : Nat} {step : Bool → List Char → Reading (Option α)}
  {out : String × Value → α}

theorem later (H : ReadsEntries k d step out) {first : Bool} {s r : List Char} {as : List α}
    (h : Steps step first s as r) (hfirst : first = false) :
    ∃ (b : Blanks) (es : List (Entry Doc)),
      s = b.chars ++ ((es.map Doc.entryText).flatMap (',' :: ·) ++ k.closer :: r) ∧
        es.map (fun e => out (e.key, e.doc.value)) = as ∧ ∀ e ∈ es, Sound k d e := by
  -- the blanks `b` in front go to the entry before, so that each step sees only its own
  induction h with
  | stop h =>
    obtain ⟨b, rfl⟩ := H.closed h
    exact ⟨b, [], rfl, rfl, by simp⟩
  | more h rest ih =>
    subst hfirst
    obtain ⟨b, e, he, rfl, rfl⟩ := H.took h
    obtain ⟨after, es, rfl, rfl, hes⟩ := ih rfl
    refine ⟨b, e.widen Blanks.none after :: es, ?_, ?_, ?_⟩
    · simp only [List.map_cons, List.flatMap_cons, Doc.entryText_widen, Blanks.none, separator,
        List.append_assoc, List.cons_append, List.nil_append, Bool.false_eq_true, if_false]
    · rw [List.map_cons, Entry.key_widen, Entry.doc_widen]
    · intro d hd
      rcases List.mem_cons.1 hd with rfl | hd
      · exact he.widen _ _
      · exact hes d hd

theorem sound (H : ReadsEntries k d step out) {s r : List Char} {as : List α}
    (h : Steps step true s as r) :
    ∃ (es : List (Entry Doc)) (tail : Tail),
      s = commaJoin (es.map Doc.entryText) ++ (tail.text ++ k.closer :: r) ∧
        es.map (fun e => out (e.key, e.doc.value)) = as ∧ (∀ e ∈ es, Sound k d e) ∧
          tail.comma = false := by
  cases h with
  | stop h =>
    obtain ⟨b, rfl⟩ := H.closed h
    exact ⟨[], ⟨false, b⟩, rfl, rfl, by simp, rfl⟩
  | more h rest =>
    obtain ⟨b, e, he, rfl, rfl⟩ := H.took h
    obtain ⟨after, es, rfl, rfl, hes⟩ := H.later rest rfl
    refine ⟨e.widen b after :: es, ⟨false, Blanks.none⟩, ?_, ?_, ?_, rfl⟩
    · simp only [List.map_cons, commaJoin, Doc.entryText_widen, Blanks.none, separator, Tail.text,
        List.append_assoc, List.nil_append, Bool.false_eq_true, if_false, if_true]
    · rw [List.map_cons, Entry.key_widen, Entry.doc_widen]
    · intro d hd
      rcases List.mem_cons.1 hd with rfl | hd
      · exact he.widen _ _
      · exact hes d hd

theorem steps_later (H : ReadsEntries k d step out) {es : List (Entry Doc)}
    (hes : ∀ e ∈ es, Sound k d e) (b : Blanks) (tail : Blanks) (r : List Char) :
    Steps step false
      (b.chars ++ ((es.map Doc.entryText).flatMap (',' :: ·) ++ (tail.chars ++ k.closer :: r)))
      (es.map fun e => out (e.key, e.doc.value)) r := by
  induction es generalizing b with
  | nil =>
    apply Steps.stop
    have hclose := H.closes false (b.append tail) r
    rw [Blanks.append, List.append_assoc] at hclose
    exact hclose
  | cons e es ih =>
    have hrest := ih (fun d hd => hes d (List.mem_cons_of_mem e hd)) e.after
    have hstep := H.takes false b (hes e List.mem_cons_self) (stops_after e.after es tail k r)
    simp only [separator, List.cons_append, List.nil_append, Bool.false_eq_true, if_false] at hstep
    simp only [List.map_cons, List.flatMap_cons, Doc.entryText, List.append_assoc, List.cons_append]
    exact Steps.more hstep hrest

theorem steps (H : ReadsEntries k d step out) {es : List (Entry Doc)}
    (hes : ∀ e ∈ es, Sound k d e) {tail : Tail} (htail : tail.comma = false) (r : List Char) :
    Steps step true (commaJoin (es.map Doc.entryText) ++ (tail.text ++ k.closer :: r))
      (es.map fun e => out (e.key, e.doc.value)) r := by
  have htext : tail.text = tail.blanks.chars := by
    rw [Tail.text, htail]
    rfl
  rw [htext]
  cases es with
  | nil => exact Steps.stop (H.closes true tail.blanks r)
  | cons e es =>
    have hrest := H.steps_later (fun d hd => hes d (List.mem_cons_of_mem e hd)) e.after tail.blanks r
    have hstep := H.takes true Blanks.none (hes e List.mem_cons_self)
      (stops_after e.after es tail.blanks k r)
    simp only [separator, Blanks.none, List.nil_append, if_true] at hstep
    simp only [List.map_cons, commaJoin, Doc.entryText, List.append_assoc]
    exact Steps.more hstep hrest

end ReadsEntries

end Groups

section Elements

variable {α : Type} {item : List Char → Reading α}

theorem map_some_eq_ok_iff {x : Reading α} {a : α} {r : List Char} :
    x.map (fun (v, r) => (some v, r)) = .ok (some a, r) ↔ x = .ok (a, r) := by
  cases x with
  | error f =>
    constructor
    · intro h
      cases h
    · intro h
      cases h
  | ok y =>
    obtain ⟨v, t⟩ := y
    simp only [Except.map, Except.ok.injEq, Prod.mk.injEq, Option.some.injEq]

theorem map_some_ne_none {x : Reading α} {r : List Char} :
    x.map (fun (v, r) => (some v, r)) ≠ .ok (none, r) := by
  cases x with
  | error f =>
    intro h
    cases h
  | ok y =>
    intro h
    cases h

theorem nextElement_closed {first : Bool} {s r : List Char}
    (h : nextElement item first s = .ok (none, r)) : ∃ b : Blanks, s = b.chars ++ ']' :: r := by
  obtain ⟨b, hs⟩ := exists_blanks_append s
  refine ⟨b, ?_⟩
  unfold nextElement at h
  split at h
  · cases h
  · rename_i t ht
    cases h
    rw [ht] at hs
    exact hs
  · split at h
    · exact absurd h map_some_ne_none
    · split at h
      · split at h
        · cases h
        · cases h
        · exact absurd h map_some_ne_none
      · cases h

theorem nextElement_took {first : Bool} {s r : List Char} {a : α}
    (h : nextElement item first s = .ok (some a, r)) :
    ∃ (b b' : Blanks) (t : List Char),
      s = b.chars ++ (separator first ++ (b'.chars ++ t)) ∧ item t = .ok (a, r) := by
  obtain ⟨b, hs⟩ := exists_blanks_append s
  unfold nextElement at h
  split at h
  · cases h
  · cases h
  · rename_i c t hc ht
    rw [ht] at hs
    split at h
    · rename_i hfirst
      subst hfirst
      exact ⟨b, Blanks.none, c :: t, hs, map_some_eq_ok_iff.1 h⟩
    · rename_i hfirst
      obtain rfl : first = false := Bool.eq_false_iff.2 hfirst
      split at h
      · rename_i hcomma
        subst hcomma
        obtain ⟨b', ht'⟩ := exists_blanks_append t
        split at h
        · cases h
        · cases h
        · refine ⟨b, b', skipSpace t, ?_, map_some_eq_ok_iff.1 h⟩
          rw [← ht']
          exact hs
      · cases h

theorem nextElement_first (item : List Char → Reading α) (b : Blanks) {c : Char}
    (hc : isSpace c = false) (hclose : c ≠ ']') (t : List Char) :
    nextElement item true (b.chars ++ c :: t) = (item (c :: t)).map fun (v, r) => (some v, r) := by
  unfold nextElement
  rw [skipSpace_append b.blank, skipSpace_cons hc]
  split
  · rename_i heq
    cases heq
  · rename_i heq
    cases heq
    exact absurd rfl hclose
  · rename_i heq
    cases heq
    rfl

theorem nextElement_later (item : List Char → Reading α) (b b' : Blanks) {c : Char}
    (hc : isSpace c = false) (hclose : c ≠ ']') (t : List Char) :
    nextElement item false (b.chars ++ ',' :: (b'.chars ++ c :: t)) =
      (item (c :: t)).map fun (v, r) => (some v, r) := by
  unfold nextElement
  rw [skipSpace_append b.blank, skipSpace_cons (by decide)]
  have hskip : skipSpace (b'.chars ++ c :: t) = c :: t := by
    rw [skipSpace_append b'.blank, skipSpace_cons hc]
  split
  · rename_i heq
    cases heq
  · rename_i heq
    cases heq
  · rename_i heq
    cases heq
    rw [hskip]
    simp only [Bool.false_eq_true, if_false, if_true]
    split
    · rename_i heq
      cases heq
    · rename_i heq
      cases heq
      exact absurd rfl hclose
    · rfl

theorem Doc.text_head (d : Doc) :
    ∃ c t, d.text = c :: t ∧ isSpace c = false ∧ ∀ k : Bracket, c ≠ k.closer := by
  obtain ⟨c, t, ht, hc⟩ := d.text_starts
  refine ⟨c, t, ht, ?_⟩
  rcases hc with hc | rfl | ⟨k, rfl⟩
  · refine ⟨isSpace_eq_false_of_isWordChar hc, ?_⟩
    rintro k rfl
    cases k <;> cases hc
  · exact ⟨rfl, fun k => by cases k <;> decide⟩
  · exact ⟨by cases k <;> rfl, fun l => by cases k <;> cases l <;> decide⟩

theorem Reads.elements {d : Nat} (H : Reads d) :
    ReadsEntries .square d (nextElement (readValue d)) Prod.snd where
  closed h := nextElement_closed h
  closes first b r := by
    unfold nextElement
    rw [skipSpace_append b.blank, skipSpace_cons (by decide)]
    rfl
  took h := by
    obtain ⟨b, b', t, rfl, ht⟩ := nextElement_took h
    obtain ⟨lead, doc, rfl, hv, hstrict, hheight⟩ := H.sound ht
    refine ⟨b, ⟨none, b'.append lead, doc, Blanks.none⟩, ⟨rfl, hstrict, hheight⟩, hv, ?_⟩
    simp only [Entry.head, Blanks.append, List.append_assoc, List.nil_append]
  takes first b e r h stops := by
    obtain ⟨label, before, doc, after⟩ := e
    have hnone : label = none := Option.isNone_iff_eq_none.1 (by simpa [Bracket.Fits] using h.fits)
    subst hnone
    obtain ⟨c, t, ht, hspace, hclose⟩ := doc.text_head
    have hread := H.complete h.strict h.height stops
    simp only [ht, List.cons_append] at hread
    simp only [Entry.head, List.nil_append, ht, List.cons_append]
    cases first with
    | true =>
      have hnext := nextElement_first (readValue d) (b.append before) hspace
        (hclose .square) (t ++ r)
      rw [hread, Blanks.append, List.append_assoc] at hnext
      exact hnext
    | false =>
      have hnext := nextElement_later (readValue d) b before hspace (hclose .square) (t ++ r)
      rw [hread] at hnext
      exact hnext

end Elements

section Members

theorem nextKey_closed {first : Bool} {s r : List Char} (h : nextKey first s = .ok (none, r)) :
    ∃ (b : Blanks) (t : List Char), s = b.chars ++ r ∧ r = '\x7d' :: t := by
  obtain ⟨b, hs⟩ := exists_blanks_append s
  unfold nextKey at h
  split at h
  · cases h
  · rename_i t ht
    cases h
    rw [ht] at hs
    exact ⟨b, t, hs, rfl⟩
  · split at h
    · split at h
      · exact absurd h map_some_ne_none
      · cases h
    · split at h
      · split at h
        · cases h
        · exact absurd h map_some_ne_none
        · cases h
        · cases h
      · cases h

theorem nextKey_took {first : Bool} {s r : List Char} {k : String}
    (h : nextKey first s = .ok (some k, r)) :
    ∃ (b b' : Blanks) (gs : List Glyph),
      s = b.chars ++ (separator first ++ (b'.chars ++ (quoted gs ++ r))) ∧ spelled gs = k := by
  obtain ⟨b, hs⟩ := exists_blanks_append s
  unfold nextKey at h
  split at h
  · cases h
  · cases h
  · rename_i c t hc ht
    rw [ht] at hs
    split at h
    · rename_i hfirst
      subst hfirst
      split at h
      · rename_i hquote
        subst hquote
        obtain ⟨gs, rfl, hgs⟩ := exists_glyphs_of_readString (map_some_eq_ok_iff.1 h)
        refine ⟨b, Blanks.none, gs, ?_, hgs⟩
        simpa only [quoted, separator, Blanks.none, if_true, List.nil_append, List.cons_append,
          List.append_assoc] using hs
      · cases h
    · rename_i hfirst
      obtain rfl : first = false := Bool.eq_false_iff.2 hfirst
      split at h
      · rename_i hcomma
        subst hcomma
        obtain ⟨b', ht'⟩ := exists_blanks_append t
        split at h
        · cases h
        · rename_i u hu
          obtain ⟨gs, rfl, hgs⟩ := exists_glyphs_of_readString (map_some_eq_ok_iff.1 h)
          refine ⟨b, b', gs, ?_, hgs⟩
          rw [hs, ht', hu]
          simp only [quoted, separator, Bool.false_eq_true, if_false, List.nil_append,
            List.cons_append, List.append_assoc]
        · cases h
        · cases h
      · cases h

theorem nextKey_takes (first : Bool) (b b' : Blanks) (gs : List Glyph) (r : List Char) :
    nextKey first (b.chars ++ (separator first ++ (b'.chars ++ (quoted gs ++ r)))) =
      .ok (some (spelled gs), r) := by
  have hread := readString_inked gs r
  have hquoted : quoted gs ++ r = '"' :: (inked gs ++ '"' :: r) := by
    simp only [quoted, List.cons_append, List.append_assoc, List.nil_append]
  have hskip : skipSpace (b'.chars ++ (quoted gs ++ r)) = '"' :: (inked gs ++ '"' :: r) := by
    rw [skipSpace_append b'.blank, hquoted, skipSpace_cons (by decide)]
  unfold nextKey
  rw [skipSpace_append b.blank]
  cases first with
  | true =>
    simp only [separator, if_true, List.nil_append]
    rw [hskip]
    show (readString (inked gs ++ '"' :: r)).map _ = _
    rw [hread]
    rfl
  | false =>
    simp only [separator, Bool.false_eq_true, if_false, List.cons_append, List.nil_append]
    rw [skipSpace_cons (by decide)]
    split
    · rename_i heq
      cases heq
    · rename_i heq
      cases heq
    · rename_i heq
      cases heq
      rw [hskip]
      show (readString (inked gs ++ '"' :: r)).map _ = _
      rw [hread]
      rfl

theorem readColon_eq_ok_iff {s r : List Char} :
    readColon s = .ok ((), r) ↔ ∃ b : Blanks, s = b.chars ++ ':' :: r := by
  constructor
  · intro h
    obtain ⟨b, hs⟩ := exists_blanks_append s
    unfold readColon at h
    split at h
    · cases h
    · rename_i t ht
      cases h
      rw [ht] at hs
      exact ⟨b, hs⟩
    · cases h
  · rintro ⟨b, rfl⟩
    unfold readColon
    rw [skipSpace_append b.blank, skipSpace_cons (by decide)]
    rfl

theorem nextMember_label {α : Type} (item : List Char → Reading α) (first : Bool) (b : Blanks)
    (l : Label) (x : List Char) :
    nextMember item first (b.chars ++ (separator first ++ (l.text ++ x))) =
      (item x).map fun (v, r) => (some (spelled l.glyphs, v), r) := by
  have hkey := nextKey_takes first b l.before l.glyphs (l.after.chars ++ ':' :: x)
  unfold nextMember
  simp only [Label.text, List.append_assoc, List.cons_append, List.nil_append]
  rw [hkey]
  simp only
  rw [readColon_eq_ok_iff.2 ⟨l.after, rfl⟩]

theorem Reads.members {d : Nat} (H : Reads d) :
    ReadsEntries .curly d (nextMember (readValue d)) id where
  closed := by
    intro first s r h
    unfold nextMember at h
    split at h
    · cases h
    · rename_i t ht
      obtain ⟨b, u, rfl, rfl⟩ := nextKey_closed ht
      cases h
      exact ⟨b, rfl⟩
    · split at h
      · cases h
      · rename_i t ht
        cases hv : readValue d t with
        | error f =>
          rw [hv] at h
          cases h
        | ok x =>
          rw [hv] at h
          cases h
  closes first b r := by
    have hkey : nextKey first (b.chars ++ '\x7d' :: r) = .ok (none, '\x7d' :: r) := by
      unfold nextKey
      rw [skipSpace_append b.blank, skipSpace_cons (by decide)]
      rfl
    unfold nextMember
    rw [show Bracket.curly.closer = '\x7d' from rfl, hkey]
    rfl
  took := by
    intro first s r a h
    unfold nextMember at h
    split at h
    · cases h
    · cases h
    · rename_i key t hkey
      split at h
      · cases h
      · rename_i u hcolon
        cases hv : readValue d u with
        | error f =>
          rw [hv] at h
          cases h
        | ok x =>
          obtain ⟨v, t'⟩ := x
          rw [hv] at h
          cases h
          obtain ⟨b, b', gs, rfl, rfl⟩ := nextKey_took hkey
          obtain ⟨after, rfl⟩ := readColon_eq_ok_iff.1 hcolon
          obtain ⟨before, doc, rfl, rfl, hstrict, hheight⟩ := H.sound hv
          refine ⟨b, ⟨some ⟨b', gs, after⟩, before, doc, Blanks.none⟩, ⟨rfl, hstrict, hheight⟩, rfl, ?_⟩
          simp only [Entry.head, Label.text, List.append_assoc, List.cons_append, List.nil_append]
  takes := by
    intro first b e r h stops
    obtain ⟨label, before, doc, after⟩ := e
    obtain ⟨l, rfl⟩ : ∃ l, label = some l :=
      Option.isSome_iff_exists.1 (by simpa [Bracket.Fits] using h.fits)
    have hread := H.complete h.strict h.height stops
    have hnext := nextMember_label (readValue d) first b l (before.chars ++ (doc.text ++ r))
    rw [readValue_append before.blank, hread] at hnext
    simp only [Entry.head, List.append_assoc]
    exact hnext

end Members

theorem length_le_commaJoin (es : List (Entry Doc)) :
    es.length ≤ (commaJoin (es.map Doc.entryText)).length := by
  have hpos : ∀ e : Entry Doc, 0 < (Doc.entryText e).length := by
    intro e
    obtain ⟨c, t, ht, -⟩ := e.doc.text_head
    simp only [Doc.entryText, ht, List.length_append, List.length_cons]
    omega
  have hlater : ∀ es : List (Entry Doc),
      es.length ≤ ((es.map Doc.entryText).flatMap (',' :: ·)).length := by
    intro es
    induction es with
    | nil => exact Nat.le_refl 0
    | cons e es ih =>
      simp only [List.map_cons, List.flatMap_cons, List.length_append, List.length_cons]
      omega
  cases es with
  | nil => exact Nat.zero_le _
  | cons e es =>
    have he := hpos e
    have hes := hlater es
    simp only [List.map_cons, commaJoin, List.length_append, List.length_cons]
    omega

namespace ReadsEntries

variable {α : Type} {k : Bracket} {d : Nat} {step : Bool → List Char → Reading (Option α)}
  {out : String × Value → α}

theorem readParts (H : ReadsEntries k d step out) {es : List (Entry Doc)}
    (hes : ∀ e ∈ es, Sound k d e) {tail : Tail} (htail : tail.comma = false) (r : List Char) :
    let s := commaJoin (es.map Doc.entryText) ++ (tail.text ++ k.closer :: r)
    Json.readParts step (s.length + 1) true s =
      .ok (es.map fun e => out (e.key, e.doc.value), r) := by
  intro s
  apply (H.steps hes htail r).readParts
  have hlen := length_le_commaJoin es
  simp only [List.length_map, s, List.length_append]
  omega

theorem exists_doc (H : ReadsEntries k d step out) {n : Nat} {s r : List Char} {as : List α}
    (h : Json.readParts step n true s = .ok (as, r)) :
    ∃ (es : List (Entry Doc)) (tail : Tail),
      k.opener :: s = (Doc.group k es tail).text ++ r ∧
        es.map (fun e => out (e.key, e.doc.value)) = as ∧ (Doc.group k es tail).Strict ∧
          (Doc.group k es tail).height ≤ d + 1 := by
  obtain ⟨es, tail, rfl, rfl, hes, htail⟩ := H.sound (steps_of_readParts h)
  refine ⟨es, tail, ?_, rfl, ?_, ?_⟩
  · simp only [Doc.text_group, List.cons_append, List.append_assoc, List.nil_append]
  · exact Doc.strict_group.2 ⟨fun e he => ⟨(hes e he).fits, (hes e he).strict⟩, htail⟩
  · rw [Doc.height_group]
    exact Nat.succ_le_succ (Doc.foldr_max_le fun e he => (hes e he).height)

end ReadsEntries

theorem sound_of_strict {k : Bracket} {es : List (Entry Doc)} {tail : Tail} {d : Nat}
    (hs : (Doc.group k es tail).Strict) (hd : (Doc.group k es tail).height ≤ d + 1) :
    ∀ e ∈ es, Sound k d e := by
  intro e he
  obtain ⟨hfits, hstrict⟩ := (Doc.strict_group.1 hs).1 e he
  rw [Doc.height_group] at hd
  exact ⟨hfits, hstrict, Nat.le_trans (Doc.height_le_of_mem he) (Nat.le_of_succ_le_succ hd)⟩

end SourceDigest.Json
