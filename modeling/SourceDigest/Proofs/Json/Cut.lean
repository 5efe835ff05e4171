import Mathlib.Data.List.Induction
import SourceDigest.Proofs.Json.Document

namespace SourceDigest.Json

open Text (EndsSolid isBlank)

def Entry.pair (e : Entry Doc) : String × Value := (e.key, e.doc.value)

def Bracket.begun (k : Bracket) (done : List (Entry Doc)) : List Char :=
  k.opener :: commaEach (done.map Doc.entryText)

inductive Cut : Doc → List Char → Value → Prop
  | whole (d : Doc) : Cut d d.text d.value
  | string (kept rest : List Glyph) :
    Cut (.string (kept ++ rest)) ('"' :: inked kept) (.string (spelled kept))
  | backslash (kept : List Glyph) (g : Glyph) (next : List Glyph) {t : List Char}
    (text : g.text = '\\' :: t) :
    Cut (.string (kept ++ g :: next)) ('"' :: (inked kept ++ ['\\'])) (.string (spelled kept))
  | opened (k : Bracket) (done next : List (Entry Doc)) (tail : Tail) (comma : done = [] ∨ next ≠ []) :
    Cut (.group k (done ++ next) tail) (k.begun done) (k.collect (done.map Entry.pair))
  | labelled (k : Bracket) (done next : List (Entry Doc)) (tail : Tail) {e : Entry Doc} {l : Label}
    (label : e.label = some l) :
    Cut (.group k (done ++ e :: next) tail) (k.begun done ++ l.text)
      (k.collect (done.map Entry.pair))
  | inside (k : Bracket) (done next : List (Entry Doc)) (tail : Tail) {e : Entry Doc}
    {s : List Char} {w : Value} (cut : Cut e.doc s w) :
    Cut (.group k (done ++ e :: next) tail) (k.begun done ++ (e.head ++ s))
      (k.collect (done.map Entry.pair ++ [(e.key, w)]))

inductive Broken : Doc → List Char → Prop
  | word (w : Word) {s r : List Char} (text : s ++ r = w.text) (some : s ≠ []) (rest : r ≠ []) :
    Broken (.word w) s
  | escape (kept : List Glyph) (g : Glyph) (next : List Glyph) {s r : List Char}
    (text : s ++ r = g.text) (some : 2 ≤ s.length) (rest : r ≠ []) :
    Broken (.string (kept ++ g :: next)) ('"' :: (inked kept ++ s))
  | label (k : Bracket) (done next : List (Entry Doc)) (tail : Tail) {e : Entry Doc} {l : Label}
    (label : e.label = some l) {s r : List Char}
    (text : s ++ r = quoted l.glyphs ++ (l.after.chars ++ [':'])) (some : s ≠ []) (rest : r ≠ []) :
    Broken (.group k (done ++ e :: next) tail) (k.begun done ++ (l.before.chars ++ s))
  | inside (k : Bracket) (done next : List (Entry Doc)) (tail : Tail) {e : Entry Doc}
    {s : List Char} (broken : Broken e.doc s) :
    Broken (.group k (done ++ e :: next) tail) (k.begun done ++ (e.head ++ s))

def Salvaged (d : Doc) (c : List Char) : Prop :=
  ∃ s b w, c = s ++ b ∧ (∀ c ∈ b, isBlank c = true) ∧ EndsSolid s ∧ Cut d s w

theorem salvaged_of_endsSolid {d : Doc} {s : List Char} {w : Value} (h : Cut d s w)
    (hs : EndsSolid s) : Salvaged d s :=
  ⟨s, [], w, (List.append_nil s).symm, by simp, hs, h⟩

section Strings

theorem Spells.solid_or_blank {t : List Char} {c : Char} (h : Spells t c) :
    EndsSolid t ∨ ∀ c ∈ t, isBlank c = true := by
  cases h with
  | plain =>
    by_cases hc : isBlank c = true
    · right
      intro d hd
      rw [List.mem_singleton.1 hd]
      exact hc
    · left
      exact ⟨[], c, rfl, Bool.eq_false_iff.2 hc⟩
  | @short e c hknown =>
    left
    simp only [shortEscapes, List.mem_cons, Prod.mk.injEq, List.not_mem_nil, or_false] at hknown
    rcases hknown with ⟨rfl, -⟩ | ⟨rfl, -⟩ | ⟨rfl, -⟩ | ⟨rfl, -⟩ | ⟨rfl, -⟩ | ⟨rfl, -⟩ | ⟨rfl, -⟩ |
      ⟨rfl, -⟩ <;> exact ⟨['\\'], _, rfl, by decide⟩
  | @code h₁ h₂ h₃ h₄ n hhex =>
    left
    have hlast := isWordChar_of_hexFour? hhex h₄ (by simp)
    exact ⟨['\\', 'u', h₁, h₂, h₃], h₄, rfl, isBlank_eq_false_of_isWordChar hlast⟩
  | @pair h₁ h₂ h₃ h₄ l₁ l₂ l₃ l₄ m n hhex hhigh hhex' =>
    left
    have hlast := isWordChar_of_hexFour? hhex' l₄ (by simp)
    exact ⟨['\\', 'u', h₁, h₂, h₃, h₄, '\\', 'u', l₁, l₂, l₃], l₄, rfl,
      isBlank_eq_false_of_isWordChar hlast⟩

theorem inked_append (as bs : List Glyph) : inked (as ++ bs) = inked as ++ inked bs :=
  List.flatMap_append

theorem exists_solid_inked (gs : List Glyph) :
    ∃ kept dropped, gs = kept ++ dropped ∧ (∀ c ∈ inked dropped, isBlank c = true) ∧
      EndsSolid ('"' :: inked kept) := by
  induction gs using List.reverseRecOn with
  | nil => exact ⟨[], [], rfl, by simp [inked], [], '"', rfl, by decide⟩
  | append_singleton gs g ih =>
    have hg : inked [g] = g.text := List.append_nil g.text
    rcases g.spells.solid_or_blank with hsolid | hblank
    · refine ⟨gs ++ [g], [], (List.append_nil _).symm, by simp [inked], ?_⟩
      rw [inked_append, hg]
      exact hsolid.append ('"' :: inked gs)
    · obtain ⟨kept, dropped, rfl, hdropped, hsolid⟩ := ih
      refine ⟨kept, dropped ++ [g], List.append_assoc _ _ _, ?_, hsolid⟩
      intro c hc
      rw [inked_append, hg] at hc
      rcases List.mem_append.1 hc with hc | hc
      · exact hdropped c hc
      · exact hblank c hc

theorem split_inked {gs : List Glyph} {s r : List Char} (h : s ++ r = inked gs) :
    (∃ kept rest, gs = kept ++ rest ∧ s = inked kept) ∨
      ∃ kept g next p q, gs = kept ++ g :: next ∧ s = inked kept ++ p ∧ p ++ q = g.text ∧
        p ≠ [] ∧ q ≠ [] := by
  -- the first glyph that is not whole decides between the two
  induction gs generalizing s with
  | nil =>
    left
    obtain ⟨rfl, -⟩ := List.append_eq_nil_iff.1 h
    exact ⟨[], [], rfl, rfl⟩
  | cons g gs ih =>
    rw [inked, List.flatMap_cons] at h
    rcases List.append_eq_append_iff.1 h with ⟨q, hg, -⟩ | ⟨t, rfl, ht⟩
    · by_cases hs : s = []
      · left
        exact ⟨[], g :: gs, rfl, hs⟩
      by_cases hq : q = []
      · left
        refine ⟨[g], gs, rfl, ?_⟩
        rw [hq, List.append_nil] at hg
        exact hg.symm.trans (List.append_nil g.text).symm
      · right
        exact ⟨[], g, gs, s, q, rfl, rfl, hg.symm, hs, hq⟩
    · rcases ih ht.symm with ⟨kept, rest, rfl, rfl⟩ | ⟨kept, g', next, p, q, rfl, rfl, hpq⟩
      · left
        exact ⟨g :: kept, rest, rfl, rfl⟩
      · right
        exact ⟨g :: kept, g', next, p, q, rfl, (List.append_assoc _ _ _).symm, hpq⟩

theorem Spells.head_of_partial {t p q : List Char} {c : Char} (h : Spells t c) (ht : p ++ q = t)
    (hp : p ≠ []) (hq : q ≠ []) : ∃ u, t = '\\' :: u := by
  cases h with
  | plain =>
    have hlen := congrArg List.length ht
    have hp := List.length_pos_iff.2 hp
    have hq := List.length_pos_iff.2 hq
    rw [List.length_append, List.length_singleton] at hlen
    omega
  | short => exact ⟨_, rfl⟩
  | code => exact ⟨_, rfl⟩
  | pair => exact ⟨_, rfl⟩

theorem salvaged_or_broken_string {gs : List Glyph} {c r : List Char}
    (h : c ++ r = (Doc.string gs).text) (hc : c ≠ []) (hr : r ≠ []) :
    Salvaged (.string gs) c ∨ Broken (.string gs) c := by
  obtain ⟨d, s, rfl⟩ := List.exists_cons_of_ne_nil hc
  rw [Doc.text_string, quoted, List.cons_append] at h
  obtain ⟨rfl, htail⟩ := List.cons.inj h
  -- something is left, so that the closing quote is not part of the cut
  obtain ⟨t, e, rfl⟩ := (List.eq_nil_or_concat' r).resolve_left hr
  rw [← List.append_assoc] at htail
  have hs : s ++ t = inked gs := (List.append_inj' htail rfl).1
  rcases split_inked hs with ⟨kept, rest, rfl, rfl⟩ | ⟨kept, g, next, p, q, rfl, rfl, hpq, hp, hq⟩
  · left
    obtain ⟨kept, dropped, rfl, hblank, hsolid⟩ := exists_solid_inked kept
    rw [List.append_assoc, inked_append]
    exact ⟨_, _, _, rfl, hblank, hsolid, Cut.string kept (dropped ++ rest)⟩
  · by_cases hlen : 2 ≤ p.length
    · right
      exact Broken.escape kept g next hpq hlen hq
    · left
      obtain ⟨u, hu⟩ := g.spells.head_of_partial hpq hp hq
      have hbackslash : p = ['\\'] := by
        obtain ⟨x, p, rfl⟩ := List.exists_cons_of_ne_nil hp
        rw [hu, List.cons_append] at hpq
        obtain ⟨rfl, -⟩ := List.cons.inj hpq
        have hnil : p = [] := by
          apply List.eq_nil_of_length_eq_zero
          rw [List.length_cons] at hlen
          omega
        rw [hnil]
      subst hbackslash
      apply salvaged_of_endsSolid (Cut.backslash kept g next hu)
      exact ⟨'"' :: inked kept, '\\', rfl, by decide⟩

end Strings

section Groups

theorem commaJoin_cons {t : List Char} {ts : List (List Char)} (h : ts ≠ []) :
    commaJoin (t :: ts) = t ++ ',' :: commaJoin ts := by
  cases ts with
  | nil => exact absurd rfl h
  | cons u us => rfl

theorem commaJoin_append (ts : List (List Char)) {us : List (List Char)} (h : us ≠ []) :
    commaJoin (ts ++ us) = commaEach ts ++ commaJoin us := by
  induction ts with
  | nil => rfl
  | cons t ts ih =>
    rw [List.cons_append, commaJoin_cons (List.append_ne_nil_of_right_ne_nil ts h), ih, commaEach,
      commaEach, List.flatMap_cons, List.append_assoc, List.append_assoc]
    rfl

theorem commaEach_eq {ts : List (List Char)} (h : ts ≠ []) : commaEach ts = commaJoin ts ++ [','] := by
  induction ts with
  | nil => exact absurd rfl h
  | cons t ts ih =>
    by_cases hts : ts = []
    · subst hts
      simp only [commaEach, commaJoin, List.flatMap_cons, List.flatMap_nil, List.append_nil]
    · rw [commaJoin_cons hts, List.append_assoc, List.cons_append, ← ih hts]
      simp only [commaEach, List.flatMap_cons, List.append_assoc, List.cons_append, List.nil_append]

theorem Bracket.begun_endsSolid (k : Bracket) (done : List (Entry Doc)) :
    EndsSolid (k.begun done) := by
  by_cases h : done = []
  · subst h
    exact ⟨[], k.opener, rfl, by cases k <;> decide⟩
  · have hmap : done.map Doc.entryText ≠ [] := by
      intro hnil
      exact h (List.map_eq_nil_iff.1 hnil)
    rw [Bracket.begun, commaEach_eq hmap]
    exact ⟨k.opener :: commaJoin (done.map Doc.entryText), ',', rfl, by decide⟩

theorem isBlank_of_append {b s r : List Char} (hb : ∀ c ∈ b, isBlank c = true) (h : s ++ r = b) :
    ∀ c ∈ s, isBlank c = true := by
  intro c hc
  exact hb c (h ▸ List.mem_append_left r hc)

theorem split_commaJoin {es : List (Entry Doc)} {tl s r : List Char}
    (htl : ∀ c ∈ tl, isBlank c = true) (h : s ++ r = commaJoin (es.map Doc.entryText) ++ tl) :
    (es = [] ∧ ∀ c ∈ s, isBlank c = true) ∨
      ∃ done e next u q b, es = done ++ e :: next ∧ s = commaEach (done.map Doc.entryText) ++ u ∧
        u ++ q = Doc.entryText e ++ b ∧ ∀ c ∈ b, isBlank c = true := by
  -- the text stops in the first entry, with the comma behind it not reached, or in a later one
  induction es generalizing s with
  | nil =>
    left
    exact ⟨rfl, isBlank_of_append htl h⟩
  | cons e es ih =>
    right
    by_cases hes : es = []
    · subst hes
      refine ⟨[], e, [], s, r, tl, rfl, rfl, ?_, htl⟩
      simpa only [List.map_cons, List.map_nil, commaJoin, List.flatMap_nil, List.append_nil] using h
    · have hmap : es.map Doc.entryText ≠ [] := by
        intro hnil
        exact hes (List.map_eq_nil_iff.1 hnil)
      rw [List.map_cons, commaJoin_cons hmap, List.append_assoc, List.cons_append] at h
      have hfirst : ∀ q, s ++ q = Doc.entryText e → ∃ done e' next u q b,
          e :: es = done ++ e' :: next ∧ s = commaEach (done.map Doc.entryText) ++ u ∧
            u ++ q = Doc.entryText e' ++ b ∧ ∀ c ∈ b, isBlank c = true := by
        intro q hq
        exact ⟨[], e, es, s, q, [], rfl, rfl, by rw [hq, List.append_nil], by simp⟩
      rcases List.append_eq_append_iff.1 h with ⟨q, hq, -⟩ | ⟨t, rfl, ht⟩
      · exact hfirst q hq.symm
      · cases t with
        | nil => exact hfirst [] (by rw [List.append_nil, List.append_nil])
        | cons x t =>
          rw [List.cons_append] at ht
          obtain ⟨rfl, htail⟩ := List.cons.inj ht
          rcases ih htail.symm with ⟨hnil, -⟩ | ⟨done, e', next, u, q, b, rfl, rfl, hu, hb⟩
          · exact absurd hnil hes
          · refine ⟨e :: done, e', next, u, q, b, rfl, ?_, hu, hb⟩
            simp only [List.map_cons, commaEach, List.flatMap_cons, List.append_assoc,
              List.cons_append, List.nil_append]

section Entry

variable (k : Bracket) (done next : List (Entry Doc)) (tail : Tail) {e : Entry Doc}

theorem salvaged_opened {b : List Char} (hb : ∀ c ∈ b, isBlank c = true) :
    Salvaged (.group k (done ++ e :: next) tail) (k.begun done ++ b) :=
  ⟨_, b, _, rfl, hb, k.begun_endsSolid done,
    Cut.opened k done (e :: next) tail (Or.inr (List.cons_ne_nil e next))⟩

theorem salvaged_labelled {l : Label} (hl : e.label = some l) {b : List Char}
    (hb : ∀ c ∈ b, isBlank c = true) :
    Salvaged (.group k (done ++ e :: next) tail) (k.begun done ++ (l.text ++ b)) := by
  refine ⟨k.begun done ++ l.text, b, _, (List.append_assoc _ _ _).symm, hb, ?_,
    Cut.labelled k done next tail hl⟩
  refine ⟨k.begun done ++ (l.before.chars ++ (quoted l.glyphs ++ l.after.chars)), ':', ?_, by decide⟩
  simp only [Label.text, List.append_assoc]

theorem salvaged_inside {c b : List Char} (h : Salvaged e.doc c) (hb : ∀ c ∈ b, isBlank c = true) :
    Salvaged (.group k (done ++ e :: next) tail) (k.begun done ++ (e.head ++ (c ++ b))) := by
  obtain ⟨s, b', w, rfl, hb', hsolid, hcut⟩ := h
  refine ⟨k.begun done ++ (e.head ++ s), b' ++ b, _, ?_, ?_, ?_, Cut.inside k done next tail hcut⟩
  · simp only [List.append_assoc]
  · intro c hc
    exact (List.mem_append.1 hc).elim (hb' c) (hb c)
  · exact (hsolid.append e.head).append (k.begun done)

theorem salvaged_or_broken_label {l : Label} (hl : e.label = some l) {u q : List Char}
    (h : u ++ q = l.text) :
    Salvaged (.group k (done ++ e :: next) tail) (k.begun done ++ u) ∨
      Broken (.group k (done ++ e :: next) tail) (k.begun done ++ u) := by
  rcases List.append_eq_append_iff.1 h with ⟨t, ht, -⟩ | ⟨p, rfl, hp⟩
  · left
    exact salvaged_opened k done next tail (isBlank_of_append l.before.isBlank ht.symm)
  · by_cases hpnil : p = []
    · left
      subst hpnil
      rw [List.append_nil]
      exact salvaged_opened k done next tail l.before.isBlank
    by_cases hqnil : q = []
    · left
      subst hqnil
      rw [List.append_nil] at h hp
      have htext := salvaged_labelled k done next tail hl (b := []) (by simp)
      rw [List.append_nil] at htext
      rw [h]
      exact htext
    · right
      exact Broken.label k done next tail hl hp.symm hpnil hqnil

theorem salvaged_or_broken_head {u q : List Char} (h : u ++ q = e.head) :
    Salvaged (.group k (done ++ e :: next) tail) (k.begun done ++ u) ∨
      Broken (.group k (done ++ e :: next) tail) (k.begun done ++ u) := by
  obtain ⟨label, before, doc, after⟩ := e
  cases label with
  | none =>
    left
    exact salvaged_opened k done next tail (isBlank_of_append before.isBlank h)
  | some l =>
    rcases List.append_eq_append_iff.1 h with ⟨t, ht, -⟩ | ⟨b, rfl, hb⟩
    · exact salvaged_or_broken_label k done next tail rfl ht.symm
    · left
      exact salvaged_labelled k done next tail rfl (isBlank_of_append before.isBlank hb.symm)

theorem salvaged_or_broken_entry {u q b : List Char}
    (ih : ∀ {c r}, c ++ r = e.doc.text → c ≠ [] → Salvaged e.doc c ∨ Broken e.doc c)
    (h : u ++ q = Doc.entryText e ++ b) (hb : ∀ c ∈ b, isBlank c = true) :
    Salvaged (.group k (done ++ e :: next) tail) (k.begun done ++ u) ∨
      Broken (.group k (done ++ e :: next) tail) (k.begun done ++ u) := by
  rw [Doc.entryText, List.append_assoc, List.append_assoc] at h
  rcases List.append_eq_append_iff.1 h with ⟨t, ht, -⟩ | ⟨c, rfl, hc⟩
  · exact salvaged_or_broken_head k done next tail ht.symm
  · rcases List.append_eq_append_iff.1 hc with ⟨b', rfl, hb'⟩ | ⟨t, ht, -⟩
    · left
      apply salvaged_inside
      · exact salvaged_of_endsSolid (Cut.whole e.doc) e.doc.text_endsSolid
      · apply isBlank_of_append (b := e.after.chars ++ b) _ hb'.symm
        intro d hd
        exact (List.mem_append.1 hd).elim (e.after.isBlank d) (hb d)
    · by_cases hcnil : c = []
      · subst hcnil
        rw [List.append_nil]
        exact salvaged_or_broken_head k done next tail (List.append_nil e.head)
      · rcases ih ht.symm hcnil with hsalvaged | hbroken
        · left
          have hinside := salvaged_inside k done next tail hsalvaged (b := []) (by simp)
          rw [List.append_nil] at hinside
          exact hinside
        · right
          exact Broken.inside k done next tail hbroken

end Entry

end Groups

theorem salvaged_or_broken {d : Doc} (hd : d.Strict) {c r : List Char} (h : c ++ r = d.text)
    (hc : c ≠ []) : Salvaged d c ∨ Broken d c := by
  by_cases hr : r = []
  · left
    subst hr
    rw [List.append_nil] at h
    rw [h]
    exact salvaged_of_endsSolid (Cut.whole d) d.text_endsSolid
  induction d using Doc.induct generalizing c r with
  | word w =>
    right
    exact Broken.word w h hc hr
  | string gs => exact salvaged_or_broken_string h hc hr
  | group k es tail ih =>
    obtain ⟨hes, htail⟩ := Doc.strict_group.1 hd
    have htext : tail.text = tail.blanks.chars := by
      rw [Tail.text, htail]
      rfl
    -- the opening bracket is part of the cut and the closing one is not
    obtain ⟨x, s, rfl⟩ := List.exists_cons_of_ne_nil hc
    obtain ⟨t, y, rfl⟩ := (List.eq_nil_or_concat' r).resolve_left hr
    rw [Doc.text_group, htext, List.cons_append] at h
    obtain ⟨rfl, hinner⟩ := List.cons.inj h
    rw [← List.append_assoc, ← List.append_assoc] at hinner
    have hs := (List.append_inj' hinner rfl).1
    rcases split_commaJoin tail.blanks.isBlank hs with
      ⟨rfl, hblank⟩ | ⟨done, e, next, u, q, b, rfl, rfl, hu, hb⟩
    · left
      exact ⟨k.begun [], s, _, rfl, hblank, k.begun_endsSolid [],
        Cut.opened k [] [] tail (Or.inl rfl)⟩
    · have he : e ∈ done ++ e :: next := List.mem_append_right done List.mem_cons_self
      refine salvaged_or_broken_entry k done next tail ?_ hu hb
      intro c r hcr hcnil
      by_cases hrnil : r = []
      · left
        subst hrnil
        rw [List.append_nil] at hcr
        rw [hcr]
        exact salvaged_of_endsSolid (Cut.whole e.doc) e.doc.text_endsSolid
      · exact ih e he (hes e he).2 hcr hcnil hrnil

end SourceDigest.Json
