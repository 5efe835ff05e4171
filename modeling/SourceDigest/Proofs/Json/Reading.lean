import SourceDigest.Proofs.Json.GroupText

namespace SourceDigest.Json

theorem eq_map_of_ok {α β : Type} {x : Reading α} {f : α → β} {b : β} {r : List Char}
    (h : x.map (fun (a, r) => (f a, r)) = .ok (b, r)) : ∃ a, x = .ok (a, r) ∧ f a = b := by
  cases x with
  | error e => cases h
  | ok y =>
    obtain ⟨a, t⟩ := y
    cases h
    exact ⟨a, rfl, rfl⟩

theorem exists_doc_of_readValue {d : Nat} (ih : ∀ n, d = n + 1 → Reads n) {s r : List Char}
    {v : Value} (h : readValue d s = .ok (v, r)) :
    ∃ (b : Blanks) (doc : Doc), s = b.chars ++ (doc.text ++ r) ∧ doc.value = v ∧ doc.Strict ∧
      doc.height ≤ d := by
  obtain ⟨b, hs⟩ := exists_blanks_append s
  rw [hs, readValue_append b.blank] at h
  rw [hs]
  suffices hdoc : ∃ doc : Doc, skipSpace s = doc.text ++ r ∧ doc.value = v ∧ doc.Strict ∧
      doc.height ≤ d by
    obtain ⟨doc, ht, hdoc⟩ := hdoc
    exact ⟨b, doc, congrArg (b.chars ++ ·) ht, hdoc⟩
  rcases hskip : skipSpace s with _ | ⟨c, t⟩
  · rw [hskip, readValue] at h
    cases h
  · have hspace := isSpace_eq_false_of_skipSpace hskip
    rw [hskip] at h
    rcases readValue_head hspace h with hword | rfl | ⟨hopen, hpos⟩
    · obtain ⟨u, hu, hplain, ht⟩ := readValue_word hword h 0
      have hreads : readValue 0 u = .ok (v, []) := by
        have hnil := ht [] stops_nil
        rwa [List.append_nil] at hnil
      exact ⟨.word ⟨u, v, hplain, hreads⟩, hu, rfl, trivial, Nat.zero_le d⟩
    · rw [readValue_quote] at h
      obtain ⟨k, hk, rfl⟩ := eq_map_of_ok h
      obtain ⟨gs, rfl, rfl⟩ := exists_glyphs_of_readString hk
      refine ⟨.string gs, ?_, rfl, trivial, Nat.zero_le d⟩
      simp only [Doc.text_string, quoted, List.cons_append, List.append_assoc, List.nil_append]
    · obtain ⟨n, rfl⟩ := Nat.exists_eq_succ_of_ne_zero (Nat.ne_of_gt hpos)
      have hreads := ih n rfl
      rcases hopen with rfl | rfl
      · rw [readValue_square] at h
        obtain ⟨vs, hvs, rfl⟩ := eq_map_of_ok h
        obtain ⟨es, tail, ht, rfl, hstrict, hheight⟩ := hreads.elements.exists_doc hvs
        refine ⟨.group .square es tail, ht, ?_, hstrict, hheight⟩
        rw [Doc.value_group, Bracket.collect, List.map_map]
        rfl
      · rw [readValue_curly] at h
        obtain ⟨ms, hms, rfl⟩ := eq_map_of_ok h
        obtain ⟨es, tail, ht, rfl, hstrict, hheight⟩ := hreads.members.exists_doc hms
        exact ⟨.group .curly es tail, ht, Doc.value_group, hstrict, hheight⟩

theorem readValue_doc {d : Nat} (ih : ∀ n, d = n + 1 → Reads n) {doc : Doc} {r : List Char}
    (strict : doc.Strict) (height : doc.height ≤ d) (stops : Stops r) :
    readValue d (doc.text ++ r) = .ok (doc.value, r) := by
  cases doc with
  | word w => exact readValue_word_append w d stops
  | string gs =>
    simp only [Doc.text_string, quoted, List.cons_append, List.append_assoc, List.nil_append]
    rw [readValue_quote, readString_inked]
    rfl
  | group k es tail =>
    cases d with
    | zero =>
      rw [Doc.height_group] at height
      exact absurd height (Nat.not_succ_le_zero _)
    | succ n =>
      have hes := sound_of_strict strict height
      have htail := (Doc.strict_group.1 strict).2
      rw [Doc.text_group, Doc.value_group]
      simp only [List.cons_append, List.append_assoc, List.nil_append]
      cases k with
      | square =>
        have hparts := (ih n rfl).elements.readParts hes htail r
        rw [Bracket.opener, readValue_square, hparts, Bracket.collect, List.map_map]
        rfl
      | curly =>
        have hparts := (ih n rfl).members.readParts hes htail r
        rw [Bracket.opener, readValue_curly, hparts]
        rfl

theorem reads (d : Nat) : Reads d := by
  -- the groups at one depth are read with the reader of the depth below
  induction d with
  | zero =>
    have ih : ∀ n, 0 = n + 1 → Reads n := fun n h => absurd h (Nat.zero_ne_add_one n)
    exact ⟨exists_doc_of_readValue ih, readValue_doc ih⟩
  | succ d hd =>
    have ih : ∀ n, d + 1 = n + 1 → Reads n := fun n h => Nat.succ.inj h ▸ hd
    exact ⟨exists_doc_of_readValue ih, readValue_doc ih⟩

structure Lays (t : List Char) (v : Value) (lead trail : Blanks) (doc : Doc) : Prop where
  text : t = lead.chars ++ (doc.text ++ trail.chars)
  value : doc.value = v
  strict : doc.Strict
  height : doc.height ≤ depthLimit

theorem exists_lays_of_parse {t : List Char} {v : Value} (h : parse t = .ok v) :
    ∃ lead trail doc, Lays t v lead trail doc := by
  unfold parse at h
  split at h
  · cases h
  · rename_i w r hread
    obtain ⟨lead, doc, rfl, rfl, hstrict, hheight⟩ := (reads depthLimit).sound hread
    obtain ⟨trail, hr⟩ := exists_blanks_append r
    unfold readEnd at h
    split at h
    · rename_i hend
      cases h
      rw [hend, List.append_nil] at hr
      exact ⟨lead, trail, doc, by rw [← hr], rfl, hstrict, hheight⟩
    · cases h

theorem Lays.parse {t : List Char} {v : Value} {lead trail : Blanks} {doc : Doc}
    (h : Lays t v lead trail doc) : parse t = .ok v := by
  obtain ⟨rfl, rfl, hstrict, hheight⟩ := h
  have hstops : Stops trail.chars := by
    have h := stops_blanks trail stops_nil
    rwa [List.append_nil] at h
  have hend : skipSpace trail.chars = [] := by
    have h := skipSpace_append trail.blank []
    rwa [List.append_nil] at h
  unfold Json.parse
  rw [readValue_append lead.blank, (reads depthLimit).complete hstrict hheight hstops]
  simp only [readEnd, hend]
  rfl

theorem parse_eq_ok_iff {t : List Char} {v : Value} :
    parse t = .ok v ↔ ∃ lead trail doc, Lays t v lead trail doc :=
  ⟨exists_lays_of_parse, fun ⟨_, _, _, h⟩ => h.parse⟩

theorem parse_doc_text {doc : Doc} (strict : doc.Strict) (height : doc.height ≤ depthLimit) :
    parse doc.text = .ok doc.value := by
  have h : Lays doc.text doc.value Blanks.none Blanks.none doc :=
    ⟨(List.append_nil _).symm, rfl, strict, height⟩
  exact h.parse

theorem Word.value_scalar (w : Word) :
    w.value = .null ∨ (∃ b, w.value = .bool b) ∨ ∃ n, w.value = .number n := by
  obtain ⟨c, t, ht, hc⟩ := w.exists_head
  have hreads := w.reads
  rw [ht] at hreads
  rcases hc with rfl | rfl | rfl | rfl | hdigit
  · rw [readValue_null] at hreads
    exact Or.inl (readWord_eq_ok_iff.1 hreads).2
  · rw [readValue_true] at hreads
    exact Or.inr (Or.inl ⟨true, (readWord_eq_ok_iff.1 hreads).2⟩)
  · rw [readValue_false] at hreads
    exact Or.inr (Or.inl ⟨false, (readWord_eq_ok_iff.1 hreads).2⟩)
  · rw [readValue_minus] at hreads
    obtain ⟨n, -, hn⟩ := eq_map_of_ok hreads
    exact Or.inr (Or.inr ⟨n, hn.symm⟩)
  · rw [readValue_digit _ _ hdigit] at hreads
    obtain ⟨n, -, hn⟩ := eq_map_of_ok hreads
    exact Or.inr (Or.inr ⟨n, hn.symm⟩)

def Value.isGroup : Value → Bool
  | .array _ => true
  | .object _ => true
  | _ => false

theorem Doc.exists_group_of_value {d : Doc} (h : d.value.isGroup = true) :
    ∃ k es tail, d = .group k es tail := by
  cases d with
  | word w =>
    have hw : w.value.isGroup = true := h
    rcases w.value_scalar with hv | ⟨b, hv⟩ | ⟨n, hv⟩
    · rw [hv] at hw
      cases hw
    · rw [hv] at hw
      cases hw
    · rw [hv] at hw
      cases hw
  | string gs => cases h
  | group k es tail => exact ⟨k, es, tail, rfl⟩

end SourceDigest.Json
