import SourceDigest.Proofs.Reply.Truncation

namespace SourceDigest.Reply

open Json (Blanks Bracket Doc Entry Lays PutsComma PutsCommas Tail Value)
open Text (EndsSolid dropBlanks dropEndBlanks isBlank trimChars)

section Ticks

variable {a b m : List Char}

theorem not_ticks_append_of_not_mem (hm : '\x60' ∉ m) (hb : ¬ ticks <:+: b) :
    ¬ ticks <:+: m ++ b := by
  induction m with
  | nil => exact hb
  | cons c m ih =>
    simp only [List.mem_cons, not_or] at hm
    intro h
    rcases List.infix_cons_iff.1 h with h | h
    · exact hm.1 (List.cons_prefix_cons.1 h).1
    · exact ih hm.2 h

theorem not_ticks_append_cons (ha : ¬ ticks <:+: a) {c : Char} (hc : c ≠ '\x60')
    (hb : ¬ ticks <:+: b) : ¬ ticks <:+: a ++ c :: b := by
  induction a with
  | nil =>
    have hsingle : '\x60' ∉ [c] := fun h => hc (List.mem_singleton.1 h).symm
    exact not_ticks_append_of_not_mem (m := [c]) hsingle hb
  | cons d a ih =>
    intro h
    rw [List.cons_append] at h
    rcases List.infix_cons_iff.1 h with h | h
    · have hhead : ticks.isPrefixOf (d :: a ++ c :: b) = false := by
        apply ticks_append_eq_false ha
        intro e he
        exact Option.some.inj he ▸ hc
      rw [List.cons_append, List.isPrefixOf_iff_prefix.2 h] at hhead
      cases hhead
    · exact ih (fun hrun => ha (hrun.trans (List.suffix_cons d a).isInfix)) h

theorem not_ticks_append_between (ha : ¬ ticks <:+: a) (hm : '\x60' ∉ m) (hne : m ≠ [])
    (hb : ¬ ticks <:+: b) : ¬ ticks <:+: a ++ (m ++ b) := by
  obtain ⟨c, m, rfl⟩ := List.exists_cons_of_ne_nil hne
  simp only [List.mem_cons, not_or] at hm
  exact not_ticks_append_cons ha (Ne.symm hm.1) (not_ticks_append_of_not_mem hm.2 hb)

theorem not_ticks_append_right (ha : ¬ ticks <:+: a) (hm : '\x60' ∉ m) : ¬ ticks <:+: a ++ m := by
  cases m with
  | nil => rwa [List.append_nil]
  | cons c m =>
    have hbetween := not_ticks_append_between ha hm (List.cons_ne_nil c m) (b := []) (by decide)
    rwa [List.append_nil] at hbetween

theorem body_of_not_ticks (h : ¬ ticks <:+: a) : body a = a := by
  have hnone : ∀ t : List Char, t <:+ a → ticks.isPrefixOf t = false := by
    intro t ht
    apply Bool.eq_false_iff.2
    intro hopens
    exact h ((List.isPrefixOf_iff_prefix.1 hopens).isInfix.trans ht.isInfix)
  rw [body, fenced?_eq_none_of_not_ticks hnone, hnone a List.suffix_rfl]
  rfl

theorem not_tick_of_blanks (b : Blanks) : '\x60' ∉ b.chars := by
  intro h
  exact absurd (b.blank _ h) (by decide)

theorem not_ticks_putsComma {d d' : Doc} (h : PutsComma d d') (hd : ¬ ticks <:+: d.text) :
    ¬ ticks <:+: d'.text := by
  obtain ⟨s, t, before, after, hs, ht⟩ := h.exists_text_eq
  rw [hs] at hd
  rw [ht]
  apply not_ticks_append_between (m := before.chars ++ ',' :: after.chars)
  · exact fun hrun => hd (hrun.trans (List.prefix_append s t).isInfix)
  · intro hmem
    rcases List.mem_append.1 hmem with hmem | hmem
    · exact not_tick_of_blanks before hmem
    · rcases List.mem_cons.1 hmem with hcomma | hmem
      · cases hcomma
      · exact not_tick_of_blanks after hmem
  · simp
  · exact fun hrun => hd (hrun.trans (List.suffix_append s t).isInfix)

theorem not_ticks_putsCommas {d d' : Doc} (h : PutsCommas d d') (hd : ¬ ticks <:+: d.text) :
    ¬ ticks <:+: d'.text := by
  induction h with
  | refl => exact hd
  | tail _ put ih => exact not_ticks_putsComma put ih

end Ticks

theorem repair_doc (d : Doc) : repair d.text = d.plain.text := by
  obtain ⟨b, hrun⟩ := rewrites_plain d [] [] []
  have hfirm : Firm (d.plain.text.reverse ++ []) := firm_doc d.plain []
  rw [repair, Scan.start, hrun, Scan.finish_eq, completed_outside _ _ hfirm, List.append_nil]
  exact List.reverse_reverse _

variable {k : Bracket} {es : List (Entry Doc)} {tail : Tail}

theorem isBlank_opener (k : Bracket) : isBlank k.opener = false := by
  cases k <;> decide

theorem parse_group_of_append {s : List Char} {v : Value}
    (h : Json.parse ((Doc.group k es tail).text ++ s) = .ok v) :
    Json.parse (Doc.group k es tail).text = .ok v := by
  obtain ⟨lead, trail, doc, htext, rfl, hstrict, hheight⟩ := Json.exists_lays_of_parse h
  have hlead : lead.chars = [] := by
    rw [Doc.text_group, List.cons_append] at htext
    exact lead_eq_nil (isBlank_opener k) htext
  rw [hlead, List.nil_append] at htext
  obtain ⟨c, t, ht, -⟩ := doc.text_starts
  have hopener : c = k.opener := by
    rw [Doc.text_group, ht] at htext
    exact (List.cons.inj htext).1.symm
  obtain ⟨k', es', tail', rfl⟩ := Doc.exists_group_of_opener (hopener ▸ ht)
  have hdoc := takeBalanced_group k es tail s
  rw [htext, takeBalanced_group] at hdoc
  rw [← hdoc]
  exact Json.parse_doc_text hstrict hheight

theorem parseBody_group {p s : List Char} {v : Value} (hp : ∀ c ∈ p, isOpening c = false)
    (hhead : ∀ c ∈ p.head?, isBlank c = false ∧ c ≠ '"')
    (h : Json.parse (Doc.group k es tail).plain.text = .ok v) :
    parseBody (p ++ ((Doc.group k es tail).text ++ s)) = .ok v := by
  have htext : ∀ r, (Doc.group k es tail).text ++ r =
      k.opener :: (Json.commaJoin (es.map Doc.entryText) ++ (tail.text ++ [k.closer]) ++ r) := by
    intro r
    rw [Doc.text_group, List.cons_append]
  have hbalanced := takeBalanced_group k es tail s
  rw [htext] at hbalanced ⊢
  apply parseBody_of_firstValue? (firstValue?_append hp hbalanced)
  · intro w hw
    cases p with
    | nil =>
      rw [List.nil_append, ← htext] at hw
      exact parse_group_of_append hw
    | cons c p =>
      obtain ⟨hblank, hquote⟩ := hhead c rfl
      exact absurd hw (not_json_of_prose hp hblank hquote)
  · rw [repair_doc]
    exact h

theorem prose_head {p : List Char} (hquote : ∀ c ∈ (dropBlanks p).head?, c ≠ '"') (lead : Blanks) :
    ∀ c ∈ (dropBlanks (p ++ lead.chars)).head?, isBlank c = false ∧ c ≠ '"' := by
  intro c hc
  refine ⟨Text.isBlank_of_head_dropBlanks hc, ?_⟩
  by_cases hp : dropBlanks p = []
  · rw [Text.dropBlanks_append (Text.dropBlanks_eq_nil_iff.1 hp),
      Text.dropBlanks_eq_nil_iff.2 lead.isBlank] at hc
    cases hc
  · rw [Text.dropBlanks_append_of_ne_nil hp, List.head?_append_of_ne_nil _ hp] at hc
    exact hquote c hc

theorem not_ticks_around {p s : List Char} {d : Doc} (hp : ¬ ticks <:+: p)
    (hd : ¬ ticks <:+: d.text) (hs : ¬ ticks <:+: s) : ¬ ticks <:+: p ++ (d.text ++ s) := by
  obtain ⟨c, t, ht, -, hc⟩ := d.text_starts_solid
  obtain ⟨u, e, hu, he⟩ := d.text_ends
  have htick : e ≠ '\x60' := by
    rcases he with he | rfl | ⟨k, rfl⟩
    · exact Json.ne_of_test he (by decide)
    · decide
    · cases k <;> decide
  have htail : ¬ ticks <:+: d.text ++ s := by
    rw [hu] at hd ⊢
    rw [List.append_assoc]
    exact not_ticks_append_cons (fun h => hd (h.trans (List.prefix_append u [e]).isInfix)) htick hs
  rw [ht, List.cons_append] at htail ⊢
  exact not_ticks_append_cons hp hc fun h => htail (h.trans (List.suffix_cons c _).isInfix)

theorem parse_around {p s : List Char} {v : Value} (lead trail : Blanks)
    (hbracket : ∀ c ∈ p, isOpening c = false) (hquote : ∀ c ∈ (dropBlanks p).head?, c ≠ '"')
    (hp : ¬ ticks <:+: p) (hs : ¬ ticks <:+: s) (ht : ¬ ticks <:+: (Doc.group k es tail).text)
    (h : Json.parse (Doc.group k es tail).plain.text = .ok v) :
    parse (String.ofList (p ++ (lead.chars ++
      ((Doc.group k es tail).text ++ (trail.chars ++ s))))) = .ok v := by
  have hfront : ¬ ticks <:+: dropBlanks (p ++ lead.chars) := by
    intro hrun
    exact not_ticks_append_right hp (not_tick_of_blanks lead)
      (hrun.trans (List.dropWhile_suffix isBlank).isInfix)
  have hback : ¬ ticks <:+: dropEndBlanks (trail.chars ++ s) := by
    obtain ⟨b, hb, -⟩ := Text.exists_dropEndBlanks_append (trail.chars ++ s)
    intro hrun
    apply not_ticks_append_of_not_mem (not_tick_of_blanks trail) hs
    rw [hb]
    exact hrun.trans (List.prefix_append _ b).isInfix
  have htrim : trimChars (p ++ (lead.chars ++ ((Doc.group k es tail).text ++ (trail.chars ++ s)))) =
      dropBlanks (p ++ lead.chars) ++
        ((Doc.group k es tail).text ++ dropEndBlanks (trail.chars ++ s)) := by
    have hends := (Doc.group k es tail).text_endsSolid
    rw [Doc.text_group] at hends ⊢
    rw [← List.append_assoc p]
    exact Text.trimChars_around (isBlank_opener k) hends _ _
  rw [parse, String.toList_ofList, htrim, body_of_not_ticks (not_ticks_around hfront ht hback)]
  apply parseBody_group _ (prose_head hquote lead) h
  intro c hc
  rcases List.mem_append.1 ((List.dropWhile_suffix isBlank).subset hc) with hc | hc
  · exact hbracket c hc
  · exact isOpening_eq_false_of_isPlain (lead.isPlain c hc)

theorem parse_trailingCommas {t : List Char} {v : Value} (h : Json.parse t = .ok v)
    (hv : v.isGroup = true) (ht : ¬ ticks <:+: t) :
    (∃ lead trail d, Lays t v lead trail d) ∧
      ∀ lead trail d, Lays t v lead trail d → ∀ d', PutsCommas d d' →
        ∀ p s, (∀ c ∈ p, isOpening c = false) → (∀ c ∈ (dropBlanks p).head?, c ≠ '"') →
          ¬ ticks <:+: p → ¬ ticks <:+: s →
            parse (String.ofList (p ++ (lead.chars ++ (d'.text ++ (trail.chars ++ s))))) = .ok v := by
  refine ⟨Json.exists_lays_of_parse h, ?_⟩
  rintro lead trail d ⟨htext, rfl, hstrict, hheight⟩ d' hput p s hbracket hquote hp hs
  have hd : ¬ ticks <:+: d.text := by
    intro hrun
    exact ht (htext ▸ (hrun.trans (List.prefix_append _ _).isInfix).trans
      (List.suffix_append _ _).isInfix)
  obtain ⟨k, es, tail, rfl⟩ := Doc.exists_group_of_value (hput.value_eq.symm ▸ hv)
  apply parse_around lead trail hbracket hquote hp hs (not_ticks_putsCommas hput hd)
  have hplain := hput.labelled_iff.2 hstrict.labelled
  rw [Json.parse_doc_text hplain.strict_plain, Doc.value_plain, hput.value_eq]
  rw [Doc.height_plain, hput.height_eq]
  exact hheight

def item (d : Doc) : Entry Doc := ⟨none, Blanks.none, d, Blanks.none⟩

def listOf (ds : List Doc) : Doc := .group .square (ds.map item) ⟨false, Blanks.none⟩

theorem strict_listOf {ds : List Doc} (h : ∀ d ∈ ds, d.Strict) : (listOf ds).Strict := by
  refine Doc.strict_group.2 ⟨?_, rfl⟩
  intro e he
  obtain ⟨d, hd, rfl⟩ := List.mem_map.1 he
  exact ⟨rfl, h d hd⟩

def bracketString : Doc := .string [letter ',' (by decide), letter ']' (by decide)]

def nestedDoc : Doc := listOf [.string letters, listOf [bracketString]]

def gap : Blanks := ⟨[' '], List.forall_mem_singleton.2 rfl⟩

def innerCommas : Doc := .group .square [{ item bracketString with after := gap }] ⟨true, Blanks.none⟩

def nestedCommas : Doc := .group .square [item (.string letters), item innerCommas] ⟨true, gap⟩

theorem nestedCommas_putsCommas : PutsCommas nestedDoc nestedCommas := by
  have hinner : PutsComma nestedDoc (listOf [.string letters, innerCommas]) :=
    PutsComma.inside .square [item (.string letters)] [] ⟨false, Blanks.none⟩
      (e := item (listOf [bracketString]))
      (PutsComma.here .square [] (item bracketString) Blanks.none gap Blanks.none)
  have houter : PutsComma (listOf [.string letters, innerCommas]) nestedCommas :=
    PutsComma.here .square [item (.string letters)] (item innerCommas) Blanks.none Blanks.none gap
  exact (Relation.ReflTransGen.single hinner).tail houter

def nestedValue : Value := .array [.string "ab", .array [.string ",]"]]

theorem nestedDoc_lays : Lays nestedDoc.text nestedValue Blanks.none Blanks.none nestedDoc where
  text := (List.append_nil _).symm
  value := rfl
  strict := by
    have hstring : ∀ gs, (Doc.string gs).Strict := fun _ => trivial
    have hinner : (listOf [bracketString]).Strict :=
      strict_listOf (List.forall_mem_singleton.2 (hstring _))
    exact strict_listOf (List.forall_mem_cons.2 ⟨hstring _, List.forall_mem_singleton.2 hinner⟩)
  height := by decide

theorem parse_trailingCommas_nested :
    Json.parse nestedDoc.text = .ok nestedValue ∧ PutsCommas nestedDoc nestedCommas ∧
      parse (String.ofList ("Sure: ".toList ++
        ("[\"ab\",[\",]\" ,], ]".toList ++ " not [1]".toList))) = .ok nestedValue := by
  have hjson := nestedDoc_lays.parse
  have htext : nestedCommas.text = "[\"ab\",[\",]\" ,], ]".toList := by decide +kernel
  have hbracket : ∀ c ∈ "Sure: ".toList, isOpening c = false := by
    intro c hc
    exact Bool.not_eq_true _ ▸ List.any_eq_false.1 (by decide +kernel) c hc
  have hquote : ∀ c ∈ (dropBlanks "Sure: ".toList).head?, c ≠ '"' := by
    have hhead : (dropBlanks "Sure: ".toList).head? = some 'S' := by decide +kernel
    rw [hhead]
    rintro _ ⟨⟩
    decide
  have hparse := (parse_trailingCommas hjson rfl (by decide +kernel)).2 _ _ _ nestedDoc_lays _
    nestedCommas_putsCommas "Sure: ".toList " not [1]".toList hbracket hquote
    (by decide +kernel) (by decide +kernel)
  rw [htext] at hparse
  exact ⟨hjson, nestedCommas_putsCommas, hparse⟩

end SourceDigest.Reply
