import Mathlib.Logic.Relation
import SourceDigest.Proofs.Json.Cut

namespace SourceDigest.Json

inductive PutsComma : Doc → Doc → Prop
  | here (k : Bracket) (done : List (Entry Doc)) (e : Entry Doc) (b before after : Blanks) :
    PutsComma (.group k (done ++ [e]) ⟨false, b⟩)
      (.group k (done ++ [{ e with after := e.after.append before }]) ⟨true, after.append b⟩)
  | inside (k : Bracket) (done next : List (Entry Doc)) (tail : Tail) {e : Entry Doc} {d : Doc}
    (put : PutsComma e.doc d) :
    PutsComma (.group k (done ++ e :: next) tail)
      (.group k (done ++ { e with doc := d } :: next) tail)

def Tail.plain (tail : Tail) : Tail := if tail.comma then ⟨false, Blanks.none⟩ else tail

namespace Doc

def plain : Doc → Doc := fold .word .string fun k es tail => .group k es tail.plain

def Labelled : Doc → Prop :=
  fold (fun _ => True) (fun _ => True) fun k es _ => ∀ e ∈ es, k.Fits e.label ∧ e.doc

variable {k : Bracket} {es : List (Entry Doc)} {tail : Tail}

theorem plain_group :
    (Doc.group k es tail).plain = .group k (es.map (Entry.map plain)) tail.plain := by
  rw [plain, fold_group]

theorem labelled_group :
    (Doc.group k es tail).Labelled ↔ ∀ e ∈ es, k.Fits e.label ∧ e.doc.Labelled := by
  rw [Labelled, fold_group]
  simp only [List.forall_mem_map]
  rfl

theorem Strict.labelled {d : Doc} (h : d.Strict) : d.Labelled := by
  induction d using induct with
  | word w => trivial
  | string gs => trivial
  | group k es tail ih =>
    obtain ⟨hes, -⟩ := strict_group.1 h
    exact labelled_group.2 fun e he => ⟨(hes e he).1, ih e he (hes e he).2⟩

theorem plain_of_strict {d : Doc} (h : d.Strict) : d.plain = d := by
  induction d using induct with
  | word w => rfl
  | string gs => rfl
  | group k es tail ih =>
    obtain ⟨hes, htail⟩ := strict_group.1 h
    have hentries : es.map (Entry.map plain) = es := by
      apply List.map_congr_left (g := id) _ |>.trans (List.map_id es)
      intro e he
      rw [Entry.map, ih e he (hes e he).2]
      rfl
    rw [plain_group, hentries, Tail.plain, htail]
    rfl

theorem Labelled.strict_plain {d : Doc} (h : d.Labelled) : d.plain.Strict := by
  induction d using induct with
  | word w => trivial
  | string gs => trivial
  | group k es tail ih =>
    rw [plain_group, strict_group]
    constructor
    · intro e he
      obtain ⟨e, hmem, rfl⟩ := List.mem_map.1 he
      obtain ⟨hfits, hdoc⟩ := labelled_group.1 h e hmem
      exact ⟨hfits, ih e hmem hdoc⟩
    · obtain ⟨comma, blanks⟩ := tail
      cases comma <;> rfl

theorem value_plain (d : Doc) : d.plain.value = d.value := by
  induction d using induct with
  | word w => rfl
  | string gs => rfl
  | group k es tail ih =>
    rw [plain_group, value_group, value_group, List.map_map]
    congr 1
    apply List.map_congr_left
    intro e he
    exact congrArg (e.key, ·) (ih e he)

theorem height_plain (d : Doc) : d.plain.height = d.height := by
  induction d using induct with
  | word w => rfl
  | string gs => rfl
  | group k es tail ih =>
    rw [plain_group, height_group, height_group, List.map_map]
    congr 2
    exact List.map_congr_left ih

end Doc

section Putting

variable {d d' : Doc}

theorem PutsComma.labelled_iff (h : PutsComma d d') : d'.Labelled ↔ d.Labelled := by
  induction h with
  | here k done e b before after =>
    simp only [Doc.labelled_group, List.forall_mem_append, List.forall_mem_singleton]
  | inside k done next tail put ih =>
    simp only [Doc.labelled_group, List.forall_mem_append, List.forall_mem_cons, ih]

theorem PutsComma.value_eq (h : PutsComma d d') : d'.value = d.value := by
  induction h with
  | here k done e b before after =>
    simp only [Doc.value_group, List.map_append, List.map_cons, List.map_nil, Entry.key]
  | inside k done next tail put ih =>
    simp only [Doc.value_group, List.map_append, List.map_cons, Entry.key, ih]

theorem PutsComma.height_eq (h : PutsComma d d') : d'.height = d.height := by
  induction h with
  | here k done e b before after =>
    simp only [Doc.height_group, List.map_append, List.map_cons, List.map_nil]
  | inside k done next tail put ih =>
    simp only [Doc.height_group, List.map_append, List.map_cons, ih]

theorem text_middle (k : Bracket) (done next : List (Entry Doc)) (e : Entry Doc) (tail : Tail) :
    (Doc.group k (done ++ e :: next) tail).text = k.begun done ++ (e.head ++ (e.doc.text ++
      (e.after.chars ++ ((next.map Doc.entryText).flatMap (',' :: ·) ++
        (tail.text ++ [k.closer]))))) := by
  rw [Doc.text_group, List.map_append, commaJoin_append _ (by simp)]
  simp only [List.map_cons, commaJoin, Doc.entryText, Bracket.begun, List.append_assoc,
    List.cons_append]

theorem PutsComma.exists_text_eq (h : PutsComma d d') :
    ∃ (s t : List Char) (before after : Blanks), d.text = s ++ t ∧
      d'.text = s ++ (before.chars ++ ',' :: after.chars ++ t) := by
  induction h with
  | here k done e b before after =>
    refine ⟨k.begun done ++ (e.head ++ (e.doc.text ++ e.after.chars)), b.chars ++ [k.closer], before,
      after, ?_, ?_⟩
    · simp only [text_middle, Tail.text, List.map_nil, List.flatMap_nil, List.append_assoc,
        List.nil_append, Bool.false_eq_true, if_false]
    · simp only [text_middle, Tail.text, Blanks.append, Entry.head, List.map_nil, List.flatMap_nil,
        List.append_assoc, List.cons_append, List.nil_append, if_true]
  | @inside k done next tail e d put ih =>
    obtain ⟨s, t, before, after, hs, ht⟩ := ih
    refine ⟨k.begun done ++ (e.head ++ s), t ++ (e.after.chars ++
      ((next.map Doc.entryText).flatMap (',' :: ·) ++ (tail.text ++ [k.closer]))), before, after,
      ?_, ?_⟩
    · simp only [text_middle, hs, List.append_assoc]
    · simp only [text_middle, ht, Entry.head, List.append_assoc, List.cons_append]

abbrev PutsCommas : Doc → Doc → Prop := Relation.ReflTransGen PutsComma

theorem PutsCommas.labelled_iff (h : PutsCommas d d') : d'.Labelled ↔ d.Labelled := by
  induction h with
  | refl => exact Iff.rfl
  | tail _ put ih => exact put.labelled_iff.trans ih

theorem PutsCommas.value_eq (h : PutsCommas d d') : d'.value = d.value := by
  induction h with
  | refl => rfl
  | tail _ put ih => exact put.value_eq.trans ih

theorem PutsCommas.height_eq (h : PutsCommas d d') : d'.height = d.height := by
  induction h with
  | refl => rfl
  | tail _ put ih => exact put.height_eq.trans ih

end Putting

end SourceDigest.Json
