import SourceDigest.Proofs.Json.Reading
import SourceDigest.Proofs.Reply.Scanning

namespace SourceDigest.Reply

open Json (Blanks Bracket Cut Doc Entry Label Tail Value)
open Text (isBlank)

def Scan.completed (σ : Scan) : List Char := dropKey σ.beforeString (dropComma σ.closeString)

theorem Scan.completed_of_firm {σ : Scan} (h : Firm σ.closeString) : σ.completed = σ.closeString := by
  rw [completed, dropComma_of_firm h, dropKey_of_firm h]

theorem completed_outside (ks b : List Char) {w : List Char} (h : Firm w) :
    Scan.completed ⟨w, ks, .outside, b⟩ = w :=
  Scan.completed_of_firm (show Firm (Scan.closeString ⟨w, ks, .outside, b⟩) from h)

theorem Scan.finish_eq (σ : Scan) : σ.finish = (closeBrackets σ.closers σ.completed).reverse := rfl

theorem closeBrackets_append (ks : List Char) (c : Char) (w : List Char) :
    Scan.closeBrackets (ks ++ [c]) w = c :: dropComma (Scan.closeBrackets ks w) :=
  List.foldl_append

theorem repair_of_json {s : List Char} {v : Value} (h : Json.parse s = .ok v) : repair s = s := by
  obtain ⟨lead, trail, doc, rfl, -, hstrict, -⟩ := Json.exists_lays_of_parse h
  have hcopies := additive_copies.append (additive_copies.blanks lead)
    (additive_copies.append (copies_doc hstrict) (additive_copies.blanks trail))
  obtain ⟨b, hrun⟩ := hcopies [] [] []
  have hfirm : Firm (lead.chars ++ (doc.text ++ trail.chars)).reverse := by
    rw [List.reverse_append, List.reverse_append, List.append_assoc,
      firm_blanks (Text.reverse_isBlank trail.isBlank)]
    exact firm_doc doc _
  rw [List.append_nil] at hrun
  rw [repair, Scan.start, hrun, Scan.finish_eq, completed_outside _ _ hfirm]
  exact List.reverse_reverse _

/-- Wherever a scan meets the cut, what is written behind that place becomes a document of the value
of the cut, once the brackets that it leaves open are closed. -/
def Mends (d : Doc) (s : List Char) (v : Value) : Prop :=
  ∀ w ks b, ∃ (opened : List Char) (d' : Doc),
    (Scan.run ⟨w, ks, .outside, b⟩ s).closers = opened ++ ks ∧
      Scan.closeBrackets opened (Scan.run ⟨w, ks, .outside, b⟩ s).completed = d'.text.reverse ++ w ∧
        d'.Strict ∧ d'.value = v ∧ d'.height ≤ d.height

theorem mends_whole {d : Doc} (hd : d.Strict) : Mends d d.text d.value := by
  intro w ks b
  obtain ⟨b', hrun⟩ := copies_doc hd w ks b
  refine ⟨[], d, ?_, ?_, hd, rfl, Nat.le_refl _⟩
  · rw [hrun]
    rfl
  · rw [hrun, completed_outside _ _ (firm_doc d w)]
    rfl

def Closes (s : List Char) (kept : List Json.Glyph) : Prop :=
  ∀ w ks b, (Scan.run ⟨w, ks, .outside, b⟩ s).closers = ks ∧
    (Scan.run ⟨w, ks, .outside, b⟩ s).closeString = (Json.quoted kept).reverse ++ w

theorem reverse_quoted (kept : List Json.Glyph) (w : List Char) :
    (Json.quoted kept).reverse ++ w = '"' :: ((Json.inked kept).reverse ++ '"' :: w) := by
  simp only [Json.quoted, List.reverse_cons, List.reverse_append, List.reverse_nil, List.nil_append,
    List.cons_append, List.append_assoc]

theorem closes_quoted (gs : List Json.Glyph) : Closes (Json.quoted gs) gs := by
  intro w ks b
  rw [scan_quoted]
  exact ⟨rfl, rfl⟩

theorem closes_inked (kept : List Json.Glyph) : Closes ('"' :: Json.inked kept) kept := by
  intro w ks b
  have hrun : Scan.run ⟨w, ks, .outside, b⟩ ('"' :: Json.inked kept) =
      ⟨(Json.inked kept).reverse ++ '"' :: w, ks, .inString, w⟩ := by
    show Scan.run ⟨'"' :: w, ks, .inString, w⟩ (Json.inked kept) = _
    rw [scan_inks _ _ _ (passes_inked kept).along, (passes_inked kept).run]
  rw [hrun, reverse_quoted]
  exact ⟨rfl, rfl⟩

theorem closes_backslash (kept : List Json.Glyph) :
    Closes ('"' :: (Json.inked kept ++ ['\\'])) kept := by
  intro w ks b
  have hrun : Scan.run ⟨w, ks, .outside, b⟩ ('"' :: (Json.inked kept ++ ['\\'])) =
      ⟨'\\' :: ((Json.inked kept).reverse ++ '"' :: w), ks, .escaped, w⟩ := by
    show Scan.run ⟨'"' :: w, ks, .inString, w⟩ (Json.inked kept ++ ['\\']) = _
    rw [Scan.run_append, scan_inks _ _ _ (passes_inked kept).along, (passes_inked kept).run]
    rfl
  rw [hrun, reverse_quoted]
  exact ⟨rfl, rfl⟩

theorem Closes.completed {s : List Char} {kept : List Json.Glyph} (h : Closes s kept)
    (w ks b : List Char) :
    (Scan.run ⟨w, ks, .outside, b⟩ s).completed = (Json.quoted kept).reverse ++ w := by
  obtain ⟨-, hclose⟩ := h w ks b
  have hfirm : Firm (Scan.run ⟨w, ks, .outside, b⟩ s).closeString :=
    hclose ▸ firm_doc (.string kept) w
  rw [Scan.completed_of_firm hfirm, hclose]

theorem Closes.mends {s : List Char} {kept : List Json.Glyph} (h : Closes s kept) (d : Doc) :
    Mends d s (.string (Json.spelled kept)) := by
  intro w ks b
  refine ⟨[], .string kept, ?_, ?_, trivial, rfl, Nat.zero_le _⟩
  · exact (h w ks b).1
  · exact h.completed w ks b

section Groups

variable {k : Bracket} {done : List (Entry Doc)}

theorem copies_begun (hdone : ∀ e ∈ done, e.doc.Strict) (w ks b : List Char) :
    ∃ b', Scan.run ⟨w, ks, .outside, b⟩ (k.begun done) =
      ⟨(k.begun done).reverse ++ w, k.closer :: ks, .outside, b'⟩ := by
  have hentries := additive_copies.commaEach
    (additive_copies.entries fun e he => copies_doc (hdone e he))
  obtain ⟨b', hrun⟩ := hentries (k.opener :: w) (k.closer :: ks) b
  refine ⟨b', ?_⟩
  rw [Bracket.begun, ← List.singleton_append, Scan.run_append, scan_opener, hrun,
    List.reverse_append, List.append_assoc]
  rfl

theorem dropComma_begun (k : Bracket) (done : List (Entry Doc)) (b : Blanks) (w : List Char) :
    ∃ tail : Tail, tail.comma = false ∧
      dropComma (b.chars.reverse ++ ((k.begun done).reverse ++ w)) =
        (Json.commaJoin (done.map Doc.entryText) ++ tail.text).reverse ++ k.opener :: w := by
  by_cases hdone : done = []
  · subst hdone
    refine ⟨⟨false, b⟩, rfl, ?_⟩
    have hfirm : Firm (b.chars.reverse ++ ((k.begun []).reverse ++ w)) :=
      (firm_blanks (Text.reverse_isBlank b.isBlank) _).2 (firm_opener k w)
    rw [dropComma_of_firm hfirm]
    rfl
  · have hmap : done.map Doc.entryText ≠ [] := by
      intro hnil
      exact hdone (List.map_eq_nil_iff.1 hnil)
    refine ⟨⟨false, Blanks.none⟩, rfl, ?_⟩
    rw [Bracket.begun, Json.commaEach_eq hmap, List.reverse_cons, List.reverse_append]
    simp only [List.reverse_singleton, List.cons_append, List.append_assoc]
    rw [dropComma_comma (Text.reverse_isBlank b.isBlank)]
    simp only [Tail.text, Blanks.none, Bool.false_eq_true, if_false, List.append_nil, List.nil_append]

theorem closer_cons (k : Bracket) (es : List (Entry Doc)) {tail : Tail} (htail : tail.comma = false)
    (w : List Char) :
    k.closer :: dropComma
        ((Json.commaJoin (es.map Doc.entryText) ++ tail.text).reverse ++ k.opener :: w) =
      (Doc.group k es tail).text.reverse ++ w := by
  rw [text_of_not_comma htail, dropComma_of_firm (firm_inside es tail.blanks.isBlank k w),
    Doc.text_group, text_of_not_comma htail]
  simp only [List.reverse_append, List.reverse_cons, List.reverse_nil, List.nil_append,
    List.append_assoc, List.cons_append]

theorem height_le_of_subset {es fs : List (Entry Doc)} {tail tail' : Tail}
    (h : ∀ e ∈ es, ∃ f ∈ fs, e.doc.height ≤ f.doc.height) :
    (Doc.group k es tail).height ≤ (Doc.group k fs tail').height := by
  rw [Doc.height_group, Doc.height_group]
  apply Nat.succ_le_succ
  apply Doc.foldr_max_le
  intro e he
  obtain ⟨f, hf, hle⟩ := h e he
  exact Nat.le_trans hle (Doc.height_le_of_mem hf)

theorem mends_begun {next : List (Entry Doc)} {tail : Tail} {s : List Char} (b : Blanks)
    (hd : (Doc.group k (done ++ next) tail).Strict)
    (h : ∀ w ks b₀, ∃ σ, Scan.run ⟨w, ks, .outside, b₀⟩ s = σ ∧ σ.closers = k.closer :: ks ∧
      ∀ x, dropComma (b.chars.reverse ++ ((k.begun done).reverse ++ w)) = x → Firm x →
        σ.completed = x) :
    Mends (.group k (done ++ next) tail) s (k.collect (done.map Entry.pair)) := by
  obtain ⟨hes, -⟩ := Doc.strict_group.1 hd
  intro w ks b₀
  obtain ⟨σ, hrun, hclosers, hcompleted⟩ := h w ks b₀
  obtain ⟨tail', htail', hdrop⟩ := dropComma_begun k done b w
  have hfirm : Firm
      ((Json.commaJoin (done.map Doc.entryText) ++ tail'.text).reverse ++ k.opener :: w) := by
    rw [text_of_not_comma htail']
    exact firm_inside done tail'.blanks.isBlank k w
  refine ⟨[k.closer], .group k done tail', ?_, ?_, ?_, ?_, ?_⟩
  · rw [hrun, hclosers]
    rfl
  · rw [hrun, hcompleted _ hdrop hfirm]
    exact closer_cons k done htail' w
  · exact Doc.strict_group.2 ⟨fun e he => hes e (List.mem_append_left next he), htail'⟩
  · exact Doc.value_group
  · exact height_le_of_subset fun e he => ⟨e, List.mem_append_left next he, Nat.le_refl _⟩

theorem mends_opened {next : List (Entry Doc)} {tail : Tail}
    (hd : (Doc.group k (done ++ next) tail).Strict) :
    Mends (.group k (done ++ next) tail) (k.begun done) (k.collect (done.map Entry.pair)) := by
  apply mends_begun Blanks.none hd
  intro w ks b₀
  obtain ⟨b', hrun⟩ := copies_begun (k := k)
    (fun e he => ((Doc.strict_group.1 hd).1 e (List.mem_append_left next he)).2) w ks b₀
  refine ⟨_, hrun, rfl, ?_⟩
  intro x hx hfirm
  show Scan.dropKey b' (dropComma ((k.begun done).reverse ++ w)) = x
  rw [show dropComma ((k.begun done).reverse ++ w) = x from hx, dropKey_of_firm hfirm]

theorem mends_labelled {e : Entry Doc} {next : List (Entry Doc)} {tail : Tail} (l : Label)
    (hd : (Doc.group k (done ++ e :: next) tail).Strict) :
    Mends (.group k (done ++ e :: next) tail) (k.begun done ++ l.text)
      (k.collect (done.map Entry.pair)) := by
  apply mends_begun l.before hd
  intro w ks b₀
  obtain ⟨b', hrun⟩ := copies_begun (k := k)
    (fun e' he => ((Doc.strict_group.1 hd).1 e' (List.mem_append_left _ he)).2) w ks b₀
  have hafter : ∀ c ∈ l.after.chars ++ [':'], Json.isPlain c = true := by
    intro c hc
    rcases List.mem_append.1 hc with hc | hc
    · exact l.after.isPlain c hc
    · rw [List.mem_singleton.1 hc]
      rfl
  refine ⟨_, rfl, ?_, ?_⟩
  · rw [Scan.run_append, hrun, Label.text, Scan.run_append, scan_plain _ _ _ l.before.isPlain,
      Scan.run_append, scan_quoted, scan_plain _ _ _ hafter]
  · intro x hx hfirm
    rw [Scan.run_append, hrun, Label.text, Scan.run_append, scan_plain _ _ _ l.before.isPlain,
      Scan.run_append, scan_quoted, scan_plain _ _ _ hafter, List.reverse_append]
    exact hx

theorem mends_inside {e : Entry Doc} {next : List (Entry Doc)} {tail : Tail} {s : List Char}
    {v : Value} (h : Mends e.doc s v) (hd : (Doc.group k (done ++ e :: next) tail).Strict) :
    Mends (.group k (done ++ e :: next) tail) (k.begun done ++ (e.head ++ s))
      (k.collect (done.map Entry.pair ++ [(e.key, v)])) := by
  obtain ⟨hes, -⟩ := Doc.strict_group.1 hd
  intro w ks b₀
  obtain ⟨b₁, hbegun⟩ := copies_begun (k := k)
    (fun e' he => (hes e' (List.mem_append_left _ he)).2) w ks b₀
  obtain ⟨b₂, hhead⟩ := additive_copies.head e ((k.begun done).reverse ++ w) (k.closer :: ks) b₁
  obtain ⟨opened, d', hclosers, hclosed, hstrict, hvalue, hheight⟩ :=
    h (e.head.reverse ++ ((k.begun done).reverse ++ w)) (k.closer :: ks) b₂
  -- the entry that is cut off keeps its label and ends where its mended value does
  let e' : Entry Doc := ⟨e.label, e.before, d', Blanks.none⟩
  have hmem : e ∈ done ++ e :: next := List.mem_append_right done List.mem_cons_self
  have hwritten : d'.text.reverse ++ (e.head.reverse ++ ((k.begun done).reverse ++ w)) =
      (Json.commaJoin ((done ++ [e']).map Doc.entryText) ++ (Tail.mk false Blanks.none).text).reverse
        ++ k.opener :: w := by
    have htext : Json.commaJoin [Doc.entryText e'] = e.head ++ d'.text := by
      show e.head ++ (d'.text ++ []) ++ [] = _
      rw [List.append_nil, List.append_nil]
    rw [List.map_append, List.map_cons, List.map_nil, Json.commaJoin_append _ (by simp), htext,
      Bracket.begun]
    simp only [Tail.text, Blanks.none, Bool.false_eq_true, if_false, List.append_nil,
      List.reverse_append, List.reverse_cons, List.append_assoc, List.cons_append, List.nil_append]
  refine ⟨opened ++ [k.closer], .group k (done ++ [e']) ⟨false, Blanks.none⟩, ?_, ?_, ?_, ?_, ?_⟩
  · rw [Scan.run_append, hbegun, Scan.run_append, hhead, hclosers, List.append_assoc]
    rfl
  · rw [Scan.run_append, hbegun, Scan.run_append, hhead, closeBrackets_append, hclosed, hwritten]
    exact closer_cons k (done ++ [e']) rfl w
  · refine Doc.strict_group.2 ⟨?_, rfl⟩
    intro f hf
    rcases List.mem_append.1 hf with hf | hf
    · exact hes f (List.mem_append_left _ hf)
    · rw [List.mem_singleton.1 hf]
      exact ⟨(hes e hmem).1, hstrict⟩
  · rw [Doc.value_group, List.map_append, ← hvalue]
    rfl
  · apply height_le_of_subset
    intro f hf
    rcases List.mem_append.1 hf with hf | hf
    · exact ⟨f, List.mem_append_left _ hf, Nat.le_refl _⟩
    · rw [List.mem_singleton.1 hf]
      exact ⟨e, hmem, hheight⟩

end Groups

theorem mends_of_cut {d : Doc} {s : List Char} {v : Value} (h : Cut d s v) (hd : d.Strict) :
    Mends d s v := by
  induction h with
  | whole d => exact mends_whole hd
  | string kept rest => exact (closes_inked kept).mends _
  | backslash kept g next htext => exact (closes_backslash kept).mends _
  | opened k done next tail hcomma => exact mends_opened hd
  | @labelled k done next tail e l hlabel => exact mends_labelled l hd
  | @inside k done next tail e s v hcut ih =>
    have he : e ∈ done ++ e :: next := List.mem_append_right done List.mem_cons_self
    exact mends_inside (ih ((Doc.strict_group.1 hd).1 e he).2) hd

theorem parse_repair_of_cut {d : Doc} {s : List Char} {v : Value} (h : Cut d s v) (hd : d.Strict)
    (hheight : d.height ≤ Json.depthLimit) : Json.parse (repair s) = .ok v := by
  obtain ⟨opened, d', hclosers, hclosed, hstrict, hvalue, hle⟩ := mends_of_cut h hd [] [] []
  rw [List.append_nil] at hclosers hclosed
  have hrepair : repair s = d'.text := by
    rw [repair, Scan.start, Scan.finish_eq, hclosers, hclosed, List.reverse_reverse]
  rw [hrepair, ← hvalue]
  exact Json.parse_doc_text hstrict (Nat.le_trans hle hheight)

end SourceDigest.Reply
