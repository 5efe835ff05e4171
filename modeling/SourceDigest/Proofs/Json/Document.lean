import SourceDigest.Json.Reader
import SourceDigest.Proofs.Json.NumberText
import SourceDigest.Proofs.Text.Trimming

namespace SourceDigest.Json

open Text (EndsSolid hexValue? isBlank)

structure Blanks where
  chars : List Char
  blank : ∀ c ∈ chars, isSpace c = true

def Blanks.none : Blanks := ⟨[], by simp⟩

def Blanks.append (a b : Blanks) : Blanks :=
  ⟨a.chars ++ b.chars, fun c hc => (List.mem_append.1 hc).elim (a.blank c) (b.blank c)⟩

def shortEscapes : List (Char × Char) :=
  [('"', '"'), ('\\', '\\'), ('/', '/'), ('b', '\x08'), ('f', '\x0c'), ('n', '\n'), ('r', '\r'),
    ('t', '\t')]

inductive Spells : List Char → Char → Prop
  | plain {c : Char} (quote : c ≠ '"') (backslash : c ≠ '\\') (control : 0x20 ≤ c.toNat) :
    Spells [c] c
  | short {e c : Char} (known : (e, c) ∈ shortEscapes) : Spells ['\\', e] c
  | code {h₁ h₂ h₃ h₄ : Char} {n : Nat} (hex : hexFour? [h₁, h₂, h₃, h₄] = some (n, []))
    (low : isLowSurrogate n = false) (high : isHighSurrogate n = false) :
    Spells ['\\', 'u', h₁, h₂, h₃, h₄] (Char.ofNat n)
  | pair {h₁ h₂ h₃ h₄ l₁ l₂ l₃ l₄ : Char} {m n : Nat}
    (hex : hexFour? [h₁, h₂, h₃, h₄] = some (m, [])) (high : isHighSurrogate m = true)
    (hexLow : hexFour? [l₁, l₂, l₃, l₄] = some (n, [])) (low : isLowSurrogate n = true) :
    Spells ['\\', 'u', h₁, h₂, h₃, h₄, '\\', 'u', l₁, l₂, l₃, l₄] (joinSurrogates m n)

structure Glyph where
  text : List Char
  char : Char
  spells : Spells text char

def inked (gs : List Glyph) : List Char := gs.flatMap Glyph.text

def quoted (gs : List Glyph) : List Char := '"' :: (inked gs ++ ['"'])

def spelled (gs : List Glyph) : String := String.ofList (gs.map Glyph.char)

structure Word where
  text : List Char
  value : Value
  plain : ∀ c ∈ text, isWordChar c = true
  reads : readValue 0 text = .ok (value, [])

structure Label where
  before : Blanks
  glyphs : List Glyph
  after : Blanks

def Label.text (l : Label) : List Char :=
  l.before.chars ++ (quoted l.glyphs ++ (l.after.chars ++ [':']))

structure Entry (δ : Type) where
  label : Option Label
  before : Blanks
  doc : δ
  after : Blanks

structure Tail where
  comma : Bool
  blanks : Blanks

def Tail.text (t : Tail) : List Char := (if t.comma then [','] else []) ++ t.blanks.chars

inductive Bracket where
  | square
  | curly
  deriving DecidableEq

inductive Doc where
  | word (w : Word)
  | string (gs : List Glyph)
  | group (kind : Bracket) (entries : List (Entry Doc)) (tail : Tail)

namespace Entry

variable {δ ε : Type}

def map (f : δ → ε) (e : Entry δ) : Entry ε := ⟨e.label, e.before, f e.doc, e.after⟩

def key (e : Entry δ) : String :=
  match e.label with
  | none => ""
  | some l => spelled l.glyphs

def head (e : Entry δ) : List Char :=
  (match e.label with
    | none => []
    | some l => l.text) ++ e.before.chars

def text (e : Entry (List Char)) : List Char := e.head ++ (e.doc ++ e.after.chars)

end Entry

namespace Bracket

def opener : Bracket → Char
  | square => '['
  | curly => '\x7b'

def closer : Bracket → Char
  | square => ']'
  | curly => '\x7d'

def collect : Bracket → List (String × Value) → Value
  | square, l => .array (l.map Prod.snd)
  | curly, l => Value.ofMembers l

def Fits (k : Bracket) (l : Option Label) : Prop := l.isSome = decide (k = .curly)

end Bracket

def commaJoin : List (List Char) → List Char
  | [] => []
  | t :: ts => t ++ ts.flatMap (',' :: ·)

def commaEach (ts : List (List Char)) : List Char := ts.flatMap (· ++ [','])

namespace Doc

section Fold

variable {β : Type} (word : Word → β) (string : List Glyph → β)
  (group : Bracket → List (Entry β) → Tail → β)

mutual

def fold : Doc → β
  | .word w => word w
  | .string gs => string gs
  | .group k es tail => group k (foldEntries es) tail

def foldEntries : List (Entry Doc) → List (Entry β)
  | [] => []
  | ⟨l, b, d, a⟩ :: es => ⟨l, b, fold d, a⟩ :: foldEntries es

end

theorem foldEntries_eq_map (es : List (Entry Doc)) :
    foldEntries word string group es = es.map (Entry.map (fold word string group)) := by
  induction es with
  | nil => rfl
  | cons e es ih =>
    obtain ⟨l, b, d, a⟩ := e
    rw [foldEntries, ih]
    rfl

theorem fold_group (k : Bracket) (es : List (Entry Doc)) (tail : Tail) :
    fold word string group (.group k es tail) =
      group k (es.map (Entry.map (fold word string group))) tail := by
  rw [fold, foldEntries_eq_map]

end Fold

theorem sizeOf_doc_lt {es : List (Entry Doc)} {e : Entry Doc} (h : e ∈ es) (k : Bracket)
    (tail : Tail) : sizeOf e.doc < sizeOf (Doc.group k es tail) := by
  have hlt := List.sizeOf_lt_of_mem h
  obtain ⟨l, b, d, a⟩ := e
  simp only [Entry.mk.sizeOf_spec, Doc.group.sizeOf_spec] at hlt ⊢
  omega

theorem induct {P : Doc → Prop} (word : ∀ w, P (.word w)) (string : ∀ gs, P (.string gs))
    (group : ∀ k es tail, (∀ e ∈ es, P e.doc) → P (.group k es tail)) : ∀ d, P d
  | .word w => word w
  | .string gs => string gs
  | .group k es tail => group k es tail fun e he =>
      have := sizeOf_doc_lt he k tail
      induct word string group e.doc
termination_by d => sizeOf d
decreasing_by assumption

def text : Doc → List Char :=
  fold Word.text quoted fun k es tail =>
    k.opener :: (commaJoin (es.map Entry.text) ++ (tail.text ++ [k.closer]))

def value : Doc → Value :=
  fold Word.value (fun gs => .string (spelled gs)) fun k es _ =>
    k.collect (es.map fun e => (e.key, e.doc))

def height : Doc → Nat :=
  fold (fun _ => 0) (fun _ => 0) fun _ es _ => (es.map Entry.doc).foldr max 0 + 1

def Strict : Doc → Prop :=
  fold (fun _ => True) (fun _ => True) fun k es tail =>
    (∀ e ∈ es, k.Fits e.label ∧ e.doc) ∧ tail.comma = false

variable {k : Bracket} {es : List (Entry Doc)} {tail : Tail}

def entryText (e : Entry Doc) : List Char := e.head ++ (e.doc.text ++ e.after.chars)

theorem text_string (gs : List Glyph) : (Doc.string gs).text = quoted gs := rfl

theorem text_group : (Doc.group k es tail).text =
    k.opener :: (commaJoin (es.map entryText) ++ (tail.text ++ [k.closer])) := by
  rw [text, fold_group, List.map_map]
  rfl

theorem value_group :
    (Doc.group k es tail).value = k.collect (es.map fun e => (e.key, e.doc.value)) := by
  rw [value, fold_group, List.map_map]
  rfl

theorem height_group : (Doc.group k es tail).height =
    (es.map fun e => e.doc.height).foldr max 0 + 1 := by
  rw [height, fold_group, List.map_map]
  rfl

theorem strict_group : (Doc.group k es tail).Strict ↔
    (∀ e ∈ es, k.Fits e.label ∧ e.doc.Strict) ∧ tail.comma = false := by
  rw [Strict, fold_group]
  simp only [List.forall_mem_map]
  rfl

theorem height_le_of_mem {e : Entry Doc} (h : e ∈ es) :
    e.doc.height ≤ (es.map fun e => e.doc.height).foldr max 0 := by
  induction es with
  | nil => cases h
  | cons d es ih =>
    rcases List.mem_cons.1 h with rfl | h
    · exact Nat.le_max_left _ _
    · exact Nat.le_trans (ih h) (Nat.le_max_right _ _)

theorem foldr_max_le {n : Nat} (h : ∀ e ∈ es, e.doc.height ≤ n) :
    (es.map fun e => e.doc.height).foldr max 0 ≤ n := by
  induction es with
  | nil => exact Nat.zero_le n
  | cons e es ih =>
    exact Nat.max_le.2 ⟨h e List.mem_cons_self, ih fun d hd => h d (List.mem_cons_of_mem e hd)⟩

end Doc

theorem Word.text_ne_nil (w : Word) : w.text ≠ [] := by
  intro h
  have hr := w.reads
  rw [h] at hr
  cases hr

theorem Doc.text_starts (d : Doc) :
    ∃ c t, d.text = c :: t ∧ (isWordChar c = true ∨ c = '"' ∨ ∃ k : Bracket, c = k.opener) := by
  cases d with
  | word w =>
    obtain ⟨c, t, h⟩ := List.exists_cons_of_ne_nil w.text_ne_nil
    exact ⟨c, t, h, Or.inl (w.plain c (h ▸ List.mem_cons_self))⟩
  | string gs => exact ⟨'"', _, rfl, Or.inr (Or.inl rfl)⟩
  | group k es tail => exact ⟨k.opener, _, Doc.text_group, Or.inr (Or.inr ⟨k, rfl⟩)⟩

theorem Doc.text_ends (d : Doc) :
    ∃ t c, d.text = t ++ [c] ∧ (isWordChar c = true ∨ c = '"' ∨ ∃ k : Bracket, c = k.closer) := by
  cases d with
  | word w =>
    refine ⟨_, _, (List.dropLast_concat_getLast w.text_ne_nil).symm, Or.inl ?_⟩
    exact w.plain _ (List.getLast_mem w.text_ne_nil)
  | string gs => exact ⟨'"' :: inked gs, '"', rfl, Or.inr (Or.inl rfl)⟩
  | group k es tail =>
    refine ⟨k.opener :: (commaJoin (es.map Doc.entryText) ++ tail.text), k.closer, ?_,
      Or.inr (Or.inr ⟨k, rfl⟩)⟩
    rw [Doc.text_group, List.cons_append, List.append_assoc]

theorem Doc.exists_group_of_opener {d : Doc} {k : Bracket} {t : List Char}
    (h : d.text = k.opener :: t) : ∃ k' es tail, d = .group k' es tail := by
  cases d with
  | word w =>
    have htext : w.text = k.opener :: t := h
    have hplain : isWordChar k.opener = true := w.plain _ (htext ▸ List.mem_cons_self)
    cases k <;> cases hplain
  | string gs =>
    have hquote : '"' = k.opener := (List.cons.inj h).1
    cases k <;> cases hquote
  | group k' es tail => exact ⟨k', es, tail, rfl⟩

theorem isBlank_of_isSpace {c : Char} (h : isSpace c = true) : isBlank c = true := by
  simp only [isSpace, Bool.or_eq_true, beq_iff_eq] at h
  rcases h with ((rfl | rfl) | rfl) | rfl <;> decide

theorem Blanks.isBlank (b : Blanks) : ∀ c ∈ b.chars, Text.isBlank c = true := by
  intro c hc
  exact isBlank_of_isSpace (b.blank c hc)

theorem isBlank_eq_false_of_isWordChar {c : Char} (h : isWordChar c = true) :
    isBlank c = false := by
  simp only [isWordChar, Bool.or_eq_true, beq_iff_eq] at h
  rcases h with ((h | rfl) | rfl) | rfl
  · exact Text.isBlank_eq_false_of_isAlphanum h
  · decide
  · decide
  · decide

theorem Doc.text_starts_solid (d : Doc) :
    ∃ c t, d.text = c :: t ∧ isBlank c = false ∧ c ≠ '\x60' := by
  obtain ⟨c, t, ht, hc⟩ := d.text_starts
  refine ⟨c, t, ht, ?_⟩
  rcases hc with hc | rfl | ⟨k, rfl⟩
  · exact ⟨isBlank_eq_false_of_isWordChar hc, ne_of_test hc (by decide)⟩
  · decide
  · cases k <;> decide

theorem Doc.text_endsSolid (d : Doc) : EndsSolid d.text := by
  obtain ⟨t, c, ht, hc⟩ := d.text_ends
  refine ⟨t, c, ht, ?_⟩
  rcases hc with hc | rfl | ⟨k, rfl⟩
  · exact isBlank_eq_false_of_isWordChar hc
  · decide
  · cases k <;> decide

theorem isWordChar_of_hexValue? {c : Char} {n : Nat} (h : hexValue? c = some n) :
    isWordChar c = true := by
  unfold hexValue? at h
  split at h
  · exact isWordChar_of_isDigit ‹_›
  · have hrange : (97 ≤ c.toNat ∧ c.toNat ≤ 102) ∨ 65 ≤ c.toNat ∧ c.toNat ≤ 70 := by
      split at h
      · rename_i hlower
        rw [Bool.and_eq_true, decide_eq_true_eq, decide_eq_true_eq] at hlower
        exact Or.inl hlower
      · split at h
        · rename_i hupper
          rw [Bool.and_eq_true, decide_eq_true_eq, decide_eq_true_eq] at hupper
          exact Or.inr hupper
        · cases h
    have halpha : c.isAlpha = true := Text.isAlpha_iff_toNat.2 (by omega)
    rw [isWordChar, Char.isAlphanum, halpha]
    rfl

theorem isWordChar_of_hexFour? {h₁ h₂ h₃ h₄ : Char} {n : Nat}
    (h : hexFour? [h₁, h₂, h₃, h₄] = some (n, [])) :
    ∀ c ∈ [h₁, h₂, h₃, h₄], isWordChar c = true := by
  simp only [hexFour?, Option.bind_eq_bind, Option.bind_eq_some_iff] at h
  obtain ⟨m₁, h₁, m₂, h₂, m₃, h₃, m₄, h₄, -⟩ := h
  intro c hc
  simp only [List.mem_cons, List.not_mem_nil, or_false] at hc
  rcases hc with rfl | rfl | rfl | rfl
  · exact isWordChar_of_hexValue? h₁
  · exact isWordChar_of_hexValue? h₂
  · exact isWordChar_of_hexValue? h₃
  · exact isWordChar_of_hexValue? h₄

def isPlain (c : Char) : Bool := isWordChar c || isSpace c || c == ',' || c == ':'

theorem Blanks.isPlain (b : Blanks) : ∀ c ∈ b.chars, isPlain c = true := by
  intro c hc
  rw [Json.isPlain, b.blank c hc, Bool.or_true]
  rfl

structure Additive (P : List Char → Prop) : Prop where
  plain {s : List Char} (h : ∀ c ∈ s, isPlain c = true) : P s
  quoted (gs : List Glyph) : P (quoted gs)
  append {s t : List Char} : P s → P t → P (s ++ t)

structure Composable (P : List Char → Prop) : Prop extends Additive P where
  group (k : Bracket) {t : List Char} : P t → P (k.opener :: (t ++ [k.closer]))

namespace Additive

variable {P : List Char → Prop}

theorem nil (h : Additive P) : P [] := h.plain (by simp)

theorem blanks (h : Additive P) (b : Blanks) : P b.chars := h.plain b.isPlain

theorem comma (h : Additive P) : P [','] := h.plain (List.all_eq_true.1 (by decide))

theorem colon (h : Additive P) : P [':'] := h.plain (List.all_eq_true.1 (by decide))

theorem word (h : Additive P) (w : Word) : P w.text := by
  apply h.plain
  intro c hc
  rw [isPlain, w.plain c hc]
  rfl

theorem flatten (h : Additive P) {ts : List (List Char)} (hts : ∀ t ∈ ts, P t) : P ts.flatten := by
  induction ts with
  | nil => exact h.nil
  | cons t ts ih =>
    have ht : P t := hts t List.mem_cons_self
    exact h.append ht (ih fun u hu => hts u (List.mem_cons_of_mem t hu))

theorem commaJoin (h : Additive P) {ts : List (List Char)} (hts : ∀ t ∈ ts, P t) :
    P (commaJoin ts) := by
  cases ts with
  | nil => exact h.nil
  | cons t ts =>
    apply h.append (hts t List.mem_cons_self)
    apply h.flatten
    intro u hu
    obtain ⟨v, hv, rfl⟩ := List.mem_map.1 hu
    exact h.append h.comma (hts v (List.mem_cons_of_mem t hv))

theorem commaEach (h : Additive P) {ts : List (List Char)} (hts : ∀ t ∈ ts, P t) :
    P (commaEach ts) := by
  apply h.flatten
  intro u hu
  obtain ⟨v, hv, rfl⟩ := List.mem_map.1 hu
  exact h.append (hts v hv) h.comma

theorem label (h : Additive P) (l : Label) : P l.text :=
  h.append (h.blanks l.before)
    (h.append (h.quoted l.glyphs) (h.append (h.blanks l.after) h.colon))

theorem head {δ : Type} (h : Additive P) (e : Entry δ) : P e.head := by
  apply h.append
  · cases e.label with
    | none => exact h.nil
    | some l => exact h.label l
  · exact h.blanks e.before

theorem tail (h : Additive P) (t : Tail) : P t.text := by
  apply h.append
  · cases t.comma with
    | false => exact h.nil
    | true => exact h.comma
  · exact h.blanks t.blanks

theorem entry (h : Additive P) {e : Entry Doc} (hd : P e.doc.text) : P (Doc.entryText e) :=
  h.append (h.head e) (h.append hd (h.blanks e.after))

theorem entries (h : Additive P) {es : List (Entry Doc)} (hes : ∀ e ∈ es, P e.doc.text) :
    ∀ t ∈ es.map Doc.entryText, P t := by
  intro t ht
  obtain ⟨e, he, rfl⟩ := List.mem_map.1 ht
  exact h.entry (hes e he)

end Additive

theorem Composable.doc {P : List Char → Prop} (h : Composable P) (d : Doc) : P d.text := by
  induction d using Doc.induct with
  | word w => exact h.word w
  | string gs => exact h.quoted gs
  | group k es tail ih =>
    rw [Doc.text_group, ← List.append_assoc]
    apply h.group
    exact h.append (h.commaJoin (h.entries ih)) (h.tail tail)

end SourceDigest.Json
