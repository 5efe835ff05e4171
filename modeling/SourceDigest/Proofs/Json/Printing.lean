import SourceDigest.Json.Printer
import SourceDigest.Proofs.Json.Reading

namespace SourceDigest.Json

section Numerals

theorem le_ofDigitChars (s : List Char) (n : Nat) : n ≤ Nat.ofDigitChars 10 s n := by
  induction s generalizing n with
  | nil => exact Nat.le_refl n
  | cons c s ih =>
    have hstep : n ≤ 10 * n + (c.toNat - '0'.toNat) := by omega
    exact Nat.le_trans hstep (ih _)

theorem gather_of_digits {limit n : Nat} {s : List Char} (hs : ∀ c ∈ s, c.isDigit = true)
    (hle : Nat.ofDigitChars 10 s n ≤ limit) :
    gather limit n s = (Nat.ofDigitChars 10 s n, s.length, []) := by
  induction s generalizing n with
  | nil => rfl
  | cons c s ih =>
    have hvalue : n * 10 + digitValue c = 10 * n + (c.toNat - '0'.toNat) := by
      rw [digitValue, Nat.mul_comm]
    have hrest : Nat.ofDigitChars 10 s (n * 10 + digitValue c) ≤ limit := by
      rw [hvalue]
      exact hle
    have hnext : n * 10 + digitValue c ≤ limit := Nat.le_trans (le_ofDigitChars s _) hrest
    have htail := ih (fun d hd => hs d (List.mem_cons_of_mem c hd)) hrest
    simp only [gather, hs c List.mem_cons_self, hnext, htail, decide_true, Bool.and_self, if_true,
      List.length_cons]
    rw [hvalue]
    rfl

theorem eq_zero_of_toDigits {n : Nat} {r : List Char} (h : Nat.toDigits 10 n = '0' :: r) :
    n = 0 := by
  induction n using Nat.strongRecOn generalizing r with
  | ind n ih =>
    by_cases hn : n < 10
    · rw [Nat.toDigits_of_lt_base hn] at h
      have hdigit : ∀ d < 10, Nat.digitChar d = '0' → d = 0 := by decide
      exact hdigit n hn (List.cons.inj h).1
    · obtain ⟨c, t, hc⟩ := List.exists_cons_of_ne_nil (Nat.toDigits_ne_nil (n := n / 10) (b := 10))
      rw [Nat.toDigits_of_base_le (by decide) (Nat.not_lt.1 hn), hc] at h
      rw [(List.cons.inj h).1] at hc
      have hzero := ih (n / 10) (by omega) hc
      omega

theorem readNumber_toDigits {n : Nat} (h : n ≤ maxNatural) :
    readNumber true (Nat.toDigits 10 n) = .ok (.natural n, []) := by
  obtain ⟨c, s, hs⟩ := List.exists_cons_of_ne_nil (Nat.toDigits_ne_nil (n := n) (b := 10))
  have hdigits : ∀ d ∈ c :: s, d.isDigit = true := fun d hd =>
    Nat.isDigit_of_mem_toDigits (by decide) (Nat.le_refl 10) (hs ▸ hd)
  have hvalue : Nat.ofDigitChars 10 s (digitValue c) = n := by
    have h0 := Nat.ofDigitChars_toDigits (b := 10) (n := n) (by decide) (Nat.le_refl 10)
    rw [hs] at h0
    simpa [Nat.ofDigitChars, digitValue] using h0
  by_cases hzero : c = '0'
  · subst hzero
    have hn : n = 0 := eq_zero_of_toDigits hs
    subst hn
    rfl
  · have hgather : gather maxNatural (digitValue c) s = (n, s.length, []) := by
      rw [gather_of_digits (fun d hd => hdigits d (List.mem_cons_of_mem c hd)) (hvalue.symm ▸ h),
        hvalue]
    rw [hs]
    unfold readNumber
    split
    case h_1 heq => cases heq
    case h_2 heq => exact absurd (List.cons.inj heq).1 hzero
    case h_3 heq =>
      cases heq
      simp only [hdigits c List.mem_cons_self, hgather]
      rfl

end Numerals

section Strings

theorem spells_escapeChar (c : Char) : Spells (escapeChar c) c := by
  unfold escapeChar
  split_ifs with hquote hslash hline hreturn htab hback hfeed hcontrol
  · subst hquote
    exact .short (by decide)
  · subst hslash
    exact .short (by decide)
  · subst hline
    exact .short (by decide)
  · subst hreturn
    exact .short (by decide)
  · subst htab
    exact .short (by decide)
  · subst hback
    exact .short (by decide)
  · subst hfeed
    exact .short (by decide)
  · have hcode : ∀ n < 0x20, hexFour? ['0', '0', hexDigit (n / 16), hexDigit n] = some (n, [])
        ∧ isLowSurrogate n = false ∧ isHighSurrogate n = false := by decide
    obtain ⟨hhex, hlow, hhigh⟩ := hcode c.toNat hcontrol
    have hspells := Spells.code hhex hlow hhigh
    rwa [Char.ofNat_toNat] at hspells
  · exact .plain hquote hslash (Nat.not_lt.1 hcontrol)

def glyph (c : Char) : Glyph := ⟨escapeChar c, c, spells_escapeChar c⟩

def glyphs (s : String) : List Glyph := s.toList.map glyph

theorem quoted_glyphs (s : String) : quoted (glyphs s) = stringChars s := by
  rw [quoted, inked, glyphs, List.flatMap_map]
  rfl

theorem spelled_glyphs (s : String) : spelled (glyphs s) = s := by
  rw [spelled, glyphs, List.map_map, show Glyph.char ∘ glyph = id from rfl, List.map_id,
    String.ofList_toList]

end Strings

structure Layout where
  line : Nat → Blanks
  gap : Blanks

namespace Layout

def compact : Layout := ⟨fun _ => .none, .none⟩

theorem isSpace_newline (depth : Nat) : ∀ c ∈ Value.newline depth, isSpace c = true := by
  intro c hc
  rcases List.mem_cons.1 hc with rfl | hc
  · rfl
  · rw [(List.mem_replicate.1 hc).2]
    rfl

theorem isSpace_gap : ∀ c ∈ [' '], isSpace c = true := List.all_eq_true.1 rfl

def pretty : Layout where
  line depth := ⟨Value.newline depth, isSpace_newline depth⟩
  gap := ⟨[' '], isSpace_gap⟩

end Layout

namespace Value

def closing {α : Type} (l : Layout) (depth : Nat) (entries : List α) : Blanks :=
  if entries.isEmpty then .none else l.line depth

mutual

def laid (l : Layout) (depth : Nat) : Value → List Char
  | .null => wordChars "null"
  | .bool b => wordChars (if b then "true" else "false")
  | .number n => n.text.toList
  | .string s => stringChars s
  | .array items =>
    '[' :: (commaJoin (laidItems l (depth + 1) items) ++ ((closing l depth items).chars ++ [']']))
  | .object members =>
    '\x7b' :: (commaJoin (laidMembers l (depth + 1) members)
      ++ ((closing l depth members).chars ++ ['\x7d']))

def laidItems (l : Layout) (depth : Nat) : List Value → List (List Char)
  | [] => []
  | v :: vs => ((l.line depth).chars ++ laid l depth v) :: laidItems l depth vs

def laidMembers (l : Layout) (depth : Nat) : List (String × Value) → List (List Char)
  | [] => []
  | (k, v) :: ms =>
    ((l.line depth).chars ++ (stringChars k ++ ':' :: (l.gap.chars ++ laid l depth v)))
      :: laidMembers l depth ms

end

theorem laidItems_eq_map (l : Layout) (depth : Nat) (vs : List Value) :
    laidItems l depth vs = vs.map fun v => (l.line depth).chars ++ laid l depth v := by
  induction vs with
  | nil => rfl
  | cons v vs ih => rw [laidItems, ih, List.map_cons]

theorem laidMembers_eq_map (l : Layout) (depth : Nat) (ms : List (String × Value)) :
    laidMembers l depth ms = ms.map fun m =>
      (l.line depth).chars ++ (stringChars m.1 ++ ':' :: (l.gap.chars ++ laid l depth m.2)) := by
  induction ms with
  | nil => rfl
  | cons m ms ih => rw [laidMembers, ih, List.map_cons]

mutual

theorem laid_compact (depth : Nat) : ∀ v : Value, v.laid .compact depth = v.compactChars
  | .null => rfl
  | .bool _ => rfl
  | .number _ => rfl
  | .string _ => rfl
  | .array [] => rfl
  | .array (v :: vs) => by
    have hv := laid_compact (depth + 1) v
    have hvs := laidItems_compact (depth + 1) vs
    simp only [laid, laidItems, compactChars, commaJoin, closing, Layout.compact, Blanks.none,
      List.isEmpty_cons, Bool.false_eq_true, if_false, List.nil_append] at hv hvs ⊢
    rw [hv, List.append_assoc, hvs]
  | .object [] => rfl
  | .object ((k, v) :: ms) => by
    have hv := laid_compact (depth + 1) v
    have hms := laidMembers_compact (depth + 1) ms
    simp only [laid, laidMembers, compactChars, commaJoin, closing, Layout.compact, Blanks.none,
      List.isEmpty_cons, Bool.false_eq_true, if_false, List.nil_append, List.append_assoc,
      List.cons_append] at hv hms ⊢
    rw [hv, hms]

theorem laidItems_compact (depth : Nat) : ∀ vs : List Value,
    (laidItems .compact depth vs).flatMap (',' :: ·) ++ [']'] = compactItems vs
  | [] => rfl
  | v :: vs => by
    rw [laidItems, List.flatMap_cons, List.append_assoc, laidItems_compact depth vs,
      laid_compact depth v]
    rfl

theorem laidMembers_compact (depth : Nat) : ∀ ms : List (String × Value),
    (laidMembers .compact depth ms).flatMap (',' :: ·) ++ ['\x7d'] = compactMembers ms
  | [] => rfl
  | (k, v) :: ms => by
    rw [laidMembers, List.flatMap_cons, List.append_assoc, laidMembers_compact depth ms,
      laid_compact depth v, compactMembers]
    simp [Layout.compact, Blanks.none]

end

mutual

theorem laid_pretty (depth : Nat) : ∀ v : Value, v.laid .pretty depth = v.prettyChars depth
  | .null => rfl
  | .bool _ => rfl
  | .number _ => rfl
  | .string _ => rfl
  | .array [] => rfl
  | .array (v :: vs) => by
    have hv := laid_pretty (depth + 1) v
    have hvs := laidItems_pretty depth vs
    simp only [laid, laidItems, prettyChars, commaJoin, closing, Layout.pretty,
      List.isEmpty_cons, Bool.false_eq_true, if_false, List.append_assoc] at hv hvs ⊢
    rw [hv, hvs]
  | .object [] => rfl
  | .object ((k, v) :: ms) => by
    have hv := laid_pretty (depth + 1) v
    have hms := laidMembers_pretty depth ms
    simp only [laid, laidMembers, prettyChars, commaJoin, closing, Layout.pretty,
      List.isEmpty_cons, Bool.false_eq_true, if_false, List.append_assoc, List.cons_append,
      List.nil_append] at hv hms ⊢
    rw [hv, hms]

theorem laidItems_pretty (depth : Nat) : ∀ vs : List Value,
    (laidItems .pretty (depth + 1) vs).flatMap (',' :: ·) ++ (newline depth ++ [']'])
      = prettyItems depth vs
  | [] => rfl
  | v :: vs => by
    rw [laidItems, List.flatMap_cons, List.append_assoc, laidItems_pretty depth vs,
      laid_pretty (depth + 1) v, prettyItems]
    simp [Layout.pretty]

theorem laidMembers_pretty (depth : Nat) : ∀ ms : List (String × Value),
    (laidMembers .pretty (depth + 1) ms).flatMap (',' :: ·) ++ (newline depth ++ ['\x7d'])
      = prettyMembers depth ms
  | [] => rfl
  | (k, v) :: ms => by
    rw [laidMembers, List.flatMap_cons, List.append_assoc, laidMembers_pretty depth ms,
      laid_pretty (depth + 1) v, prettyMembers]
    simp [Layout.pretty]

end

mutual

def sorted : Value → Value
  | .array items => .array (sortedItems items)
  | .object members => ofMembers (sortedMembers members)
  | .null => .null
  | .bool b => .bool b
  | .number n => .number n
  | .string s => .string s

def sortedItems : List Value → List Value
  | [] => []
  | v :: vs => sorted v :: sortedItems vs

def sortedMembers : List (String × Value) → List (String × Value)
  | [] => []
  | (k, v) :: ms => (k, sorted v) :: sortedMembers ms

end

theorem sortedItems_eq_map (vs : List Value) : sortedItems vs = vs.map sorted := by
  induction vs with
  | nil => rfl
  | cons v vs ih => rw [sortedItems, ih, List.map_cons]

theorem sortedMembers_eq_map (ms : List (String × Value)) :
    sortedMembers ms = ms.map fun m => (m.1, m.2.sorted) := by
  induction ms with
  | nil => rfl
  | cons m ms ih => rw [sortedMembers, ih, List.map_cons]

inductive Printable : Nat → Value → Prop
  | null {depth : Nat} : Printable depth .null
  | bool {depth : Nat} (b : Bool) : Printable depth (.bool b)
  | number {depth n : Nat} (limit : n ≤ maxNatural) : Printable depth (.ofNat n)
  | string {depth : Nat} (s : String) : Printable depth (.string s)
  | array {depth : Nat} {items : List Value} (each : ∀ v ∈ items, Printable depth v) :
    Printable (depth + 1) (.array items)
  | object {depth : Nat} {members : List (String × Value)}
    (each : ∀ m ∈ members, Printable depth m.2) : Printable (depth + 1) (.object members)

end Value

namespace Word

def null : Word := ⟨wordChars "null", .null, List.all_eq_true.1 rfl, rfl⟩

def bool (b : Bool) : Word :=
  ⟨wordChars (if b then "true" else "false"), .bool b,
    by cases b <;> exact List.all_eq_true.1 rfl, by cases b <;> rfl⟩

theorem readValue_toDigits {n : Nat} (h : n ≤ maxNatural) :
    readValue 0 (Nat.toDigits 10 n) = .ok (.ofNat n, []) := by
  obtain ⟨c, s, hs⟩ := List.exists_cons_of_ne_nil (Nat.toDigits_ne_nil (n := n) (b := 10))
  have hdigit : c.isDigit = true :=
    Nat.isDigit_of_mem_toDigits (by decide) (Nat.le_refl 10) (hs ▸ List.mem_cons_self)
  rw [hs, readValue_digit 0 s hdigit, ← hs, readNumber_toDigits h]
  rfl

def natural (n : Nat) (h : n ≤ maxNatural) : Word :=
  ⟨Nat.toDigits 10 n, .ofNat n,
    fun _ hc => isWordChar_of_isDigit (Nat.isDigit_of_mem_toDigits (by decide) (Nat.le_refl 10) hc),
    readValue_toDigits h⟩

end Word

open Value

def Writes (depth : Nat) (t : List Char) (v : Value) : Prop :=
  ∃ doc : Doc, doc.text = t ∧ doc.value = v ∧ doc.Strict ∧ doc.height ≤ depth

theorem Writes.parse {t : List Char} {v : Value} (h : Writes depthLimit t v) : parse t = .ok v := by
  obtain ⟨doc, rfl, rfl, hstrict, hheight⟩ := h
  exact parse_doc_text hstrict hheight

theorem writes_word (w : Word) (depth : Nat) : Writes depth w.text w.value :=
  ⟨.word w, rfl, rfl, trivial, Nat.zero_le depth⟩

theorem writes_string (s : String) (depth : Nat) : Writes depth (stringChars s) (.string s) :=
  ⟨.string (glyphs s), quoted_glyphs s, congrArg Value.string (spelled_glyphs s), trivial,
    Nat.zero_le depth⟩

theorem exists_entries {k : Bracket} {depth : Nat} {ts : List (Entry (List Char × Value))}
    (h : ∀ e ∈ ts, k.Fits e.label ∧ Writes depth e.doc.1 e.doc.2) :
    ∃ es : List (Entry Doc), (∀ e ∈ es, Sound k depth e) ∧
      es.map Doc.entryText = ts.map (fun e => (e.map Prod.fst).text) ∧
      es.map (fun e => (e.key, e.doc.value)) = ts.map fun e => (e.key, e.doc.2) := by
  induction ts with
  | nil => exact ⟨[], by simp, rfl, rfl⟩
  | cons e ts ih =>
    obtain ⟨hfits, doc, htext, hvalue, hstrict, hheight⟩ := h e List.mem_cons_self
    obtain ⟨es, hsound, htexts, hvalues⟩ := ih fun e' he' => h e' (List.mem_cons_of_mem e he')
    refine ⟨⟨e.label, e.before, doc, e.after⟩ :: es, ?_, ?_, ?_⟩
    · intro e' he'
      rcases List.mem_cons.1 he' with rfl | he'
      · exact ⟨hfits, hstrict, hheight⟩
      · exact hsound e' he'
    · rw [List.map_cons, List.map_cons, htexts, Doc.entryText, htext]
      rfl
    · rw [List.map_cons, List.map_cons, hvalues, hvalue]
      rfl

theorem writes_group {k : Bracket} {depth : Nat} {ts : List (Entry (List Char × Value))}
    (h : ∀ e ∈ ts, k.Fits e.label ∧ Writes depth e.doc.1 e.doc.2) (blanks : Blanks) :
    Writes (depth + 1)
      (k.opener :: (commaJoin (ts.map fun e => (e.map Prod.fst).text) ++ (blanks.chars ++ [k.closer])))
      (k.collect (ts.map fun e => (e.key, e.doc.2))) := by
  obtain ⟨es, hsound, htexts, hvalues⟩ := exists_entries h
  refine ⟨.group k es ⟨false, blanks⟩, ?_, ?_, ?_, ?_⟩
  · rw [Doc.text_group, htexts, Tail.text]
    rfl
  · rw [Doc.value_group, hvalues]
  · exact Doc.strict_group.2 ⟨fun e he => ⟨(hsound e he).fits, (hsound e he).strict⟩, rfl⟩
  · rw [Doc.height_group]
    exact Nat.succ_le_succ (Doc.foldr_max_le fun e he => (hsound e he).height)

def Value.itemEntry (l : Layout) (indent : Nat) (v : Value) : Entry (List Char × Value) :=
  ⟨none, l.line indent, (v.laid l indent, v.sorted), .none⟩

def Value.memberEntry (l : Layout) (indent : Nat) (m : String × Value) :
    Entry (List Char × Value) :=
  ⟨some ⟨l.line indent, glyphs m.1, .none⟩, l.gap, (m.2.laid l indent, m.2.sorted), .none⟩

theorem Value.Printable.writes {depth : Nat} {v : Value} (h : Printable depth v) (l : Layout)
    (indent : Nat) : Writes depth (v.laid l indent) v.sorted := by
  induction h generalizing indent with
  | null => exact writes_word .null _
  | bool b => exact writes_word (.bool b) _
  | @number _ n limit =>
    have htext : (Value.ofNat n).laid l indent = Nat.toDigits 10 n := by
      show (toString n).toList = _
      rw [show toString n = n.repr from rfl, Nat.repr_eq_ofList_toDigits, String.toList_ofList]
    rw [htext]
    exact writes_word (.natural n limit) _
  | string s => exact writes_string s _
  | @array depth items each ih =>
    have hitems : ∀ e ∈ items.map (itemEntry l (indent + 1)),
        Bracket.square.Fits e.label ∧ Writes depth e.doc.1 e.doc.2 := by
      intro e he
      obtain ⟨v, hv, rfl⟩ := List.mem_map.1 he
      exact ⟨rfl, ih v hv (indent + 1)⟩
    rw [laid, laidItems_eq_map, sorted, sortedItems_eq_map]
    simpa [itemEntry, Bracket.collect, Entry.text, Entry.head, Entry.map, Blanks.none,
      Function.comp_def, Bracket.opener, Bracket.closer]
      using writes_group hitems (closing l indent items)
  | @object depth members each ih =>
    have hmembers : ∀ e ∈ members.map (memberEntry l (indent + 1)),
        Bracket.curly.Fits e.label ∧ Writes depth e.doc.1 e.doc.2 := by
      intro e he
      obtain ⟨m, hm, rfl⟩ := List.mem_map.1 he
      exact ⟨rfl, ih m hm (indent + 1)⟩
    rw [laid, laidMembers_eq_map, sorted, sortedMembers_eq_map]
    simpa [memberEntry, Bracket.collect, Entry.text, Entry.head, Entry.map, Entry.key, Label.text,
      Blanks.none, Function.comp_def, Bracket.opener, Bracket.closer, quoted_glyphs, spelled_glyphs]
      using writes_group hmembers (closing l indent members)

theorem parse_compactChars {v : Value} (h : Printable depthLimit v) :
    parse v.compactChars = .ok v.sorted := by
  rw [← laid_compact 0]
  exact (h.writes .compact 0).parse

theorem parse_prettyChars {v : Value} (h : Printable depthLimit v) :
    parse (v.prettyChars 0) = .ok v.sorted := by
  rw [← laid_pretty 0]
  exact (h.writes .pretty 0).parse

end SourceDigest.Json
