import SourceDigest.Proofs.Reply.Mending
import SourceDigest.Proofs.Reply.Strict

namespace SourceDigest.Reply

deriving instance DecidableEq for Unreadable

open Json (Blanks Bracket Broken Cut Doc Entry Lays Tail Value)
open Text (EndsSolid dropBlanks dropEndBlanks isBlank trimChars)

inductive Front : List Char → Prop
  | prose {p : List Char} (bracket : ∀ c ∈ p, isOpening c = false) (fence : ¬ ticks <:+: p)
    (quote : ∀ c ∈ (dropBlanks p).head?, c ≠ '"') : Front p
  | fence {line : List Char} (oneLine : '\n' ∉ line) : Front (ticks ++ (line ++ ['\n']))

section Fences

theorem ne_tick_of_tidy {s : List Char} (hs : Tidy .outside s) : ∀ c ∈ s.head?, c ≠ '\x60' := by
  intro c hc
  obtain ⟨t, rfl⟩ := List.head?_eq_some_iff.1 hc
  exact hs.1

theorem ticks_append_eq_false {p s : List Char} (hp : ¬ ticks <:+: p)
    (hs : ∀ c ∈ s.head?, c ≠ '\x60') : ticks.isPrefixOf (p ++ s) = false := by
  apply Bool.eq_false_iff.2
  intro h
  obtain ⟨r, hr⟩ := List.isPrefixOf_iff_prefix.1 h
  rcases List.append_eq_append_iff.1 hr with ⟨t, rfl, -⟩ | ⟨t, ht, rfl⟩
  · exact hp ⟨[], t, rfl⟩
  · cases t with
    | nil =>
      rw [List.append_nil] at ht
      exact hp ⟨[], [], by rw [ht, List.append_nil, List.nil_append]⟩
    | cons c t =>
      -- the first character of `s` would be one of the backticks
      have hc : c ∈ ticks := ht ▸ List.mem_append_right p List.mem_cons_self
      have htick : c = '\x60' := by
        simp only [ticks, List.mem_cons, List.not_mem_nil, or_false, or_self] at hc
        exact hc
      exact hs c rfl htick

theorem not_ticks_gap_append {p s : List Char} (hp : ¬ ticks <:+: p)
    (hs : ticks.isPrefixOf (s.dropWhile isGap) = false) (hhead : ∀ c ∈ s.head?, c ≠ '\x60') :
    ticks.isPrefixOf ((p ++ s).dropWhile isGap) = false := by
  induction p with
  | nil => exact hs
  | cons c p ih =>
    have htail : ¬ ticks <:+: p := fun h => hp (h.trans (List.suffix_cons c p).isInfix)
    by_cases hc : isGap c = true
    · rw [List.cons_append, List.dropWhile_cons_of_pos hc]
      exact ih htail
    · rw [List.cons_append, List.dropWhile_cons_of_neg hc, ← List.cons_append]
      exact ticks_append_eq_false hp hhead

theorem not_ticks_gap {p s : List Char} (hp : ¬ ticks <:+: p) (hs : Tidy .outside s) :
    ticks.isPrefixOf ((p ++ s).dropWhile isGap) = false :=
  not_ticks_gap_append hp (not_ticks_of_tidy hs) (ne_tick_of_tidy hs)

theorem isClosing_append_eq_false {p s : List Char} (hs : Tidy .outside s)
    (h : ∀ r, '\n' :: r <:+ p → ticks.isPrefixOf ((r ++ s).dropWhile isGap) = false) :
    isClosing (p ++ s) = false := by
  unfold isClosing afterBreak?
  split
  · rename_i r hr
    split at hr
    · rename_i t ht
      cases hr
      cases p with
      | nil =>
        rw [List.nil_append] at ht
        subst ht
        exact not_ticks_of_tidy hs.2
      | cons c p =>
        obtain ⟨rfl, rfl⟩ := List.cons.inj ht
        exact h p List.suffix_rfl
    · rename_i t ht
      cases hr
      match p, ht with
      | [], ht =>
        rw [List.nil_append] at ht
        subst ht
        exact not_ticks_of_tidy hs.2.2
      | [c], ht =>
        obtain ⟨-, rfl⟩ := List.cons.inj ht
        exact not_ticks_of_tidy hs.2
      | c :: d :: p, ht =>
        obtain ⟨-, ht⟩ := List.cons.inj ht
        obtain ⟨rfl, rfl⟩ := List.cons.inj ht
        exact h p (List.suffix_cons c _)
    · cases hr
  · rfl

theorem not_closing_append {p s : List Char} (hs : Tidy .outside s)
    (h : ∀ r, '\n' :: r <:+ p → ticks.isPrefixOf ((r ++ s).dropWhile isGap) = false) :
    ∀ t, t <:+ p ++ s → isClosing t = false := by
  rintro t ⟨u, hu⟩
  rcases List.append_eq_append_iff.1 hu with ⟨r, rfl, rfl⟩ | ⟨r, -, rfl⟩
  · apply isClosing_append_eq_false hs
    intro q hq
    exact h q (hq.trans ⟨u, rfl⟩)
  · exact isClosing_eq_false_of_tidy (along_append.1 hs).2

theorem body_prose {p s : List Char} (hp : ¬ ticks <:+: p) (hs : Tidy .outside s) :
    body (p ++ s) = p ++ s := by
  apply body_of_not_closing _ (ticks_append_eq_false hp (ne_tick_of_tidy hs))
  apply not_closing_append hs
  intro r hr
  apply not_ticks_gap _ hs
  intro h
  exact hp (h.trans ((List.suffix_cons _ r).trans hr).isInfix)

theorem body_fence {line s : List Char} (hline : '\n' ∉ line) (hs : Tidy .outside s) :
    body (ticks ++ (line ++ '\n' :: s)) = trimChars s := by
  have hbreak : '\n' ∉ ticks ++ line := by
    intro h
    rcases List.mem_append.1 h with h | h
    · revert h
      decide
    · exact hline h
  have hfenced : fenced? (ticks ++ (line ++ '\n' :: s)) = none := by
    have hsplit : ticks ++ (line ++ '\n' :: s) = (ticks ++ line ++ ['\n']) ++ s := by
      simp only [List.append_assoc, List.singleton_append]
    rw [hsplit]
    apply fenced?_eq_none_of_not_closing
    apply not_closing_append hs
    rintro r ⟨q, hq⟩
    -- the only line break of the line is its last character
    have hr : r = [] := by
      rcases List.eq_nil_or_concat' r with hr | ⟨r', c, rfl⟩
      · exact hr
      · rw [← List.cons_append, ← List.append_assoc] at hq
        have hmem := (List.append_inj' hq rfl).1
        exact absurd (hmem ▸ List.mem_append_right q List.mem_cons_self) hbreak
    rw [hr]
    exact not_ticks_of_tidy hs
  have hticks : ticks.isPrefixOf (ticks ++ (line ++ '\n' :: s)) = true :=
    List.isPrefixOf_iff_prefix.2 (List.prefix_append ticks _)
  have hsplit : Text.splitOnce '\n' (ticks ++ (line ++ '\n' :: s)) = some (ticks ++ line, s) := by
    rw [← List.append_assoc]
    exact Text.splitOnce_append_cons hbreak s
  rw [body, hfenced, hticks, hsplit]
  rfl

end Fences

section Bodies

theorem lead_eq_nil {lead : Blanks} {c : Char} {t r : List Char} (hc : isBlank c = false)
    (h : c :: t = lead.chars ++ r) : lead.chars = [] := by
  cases hl : lead.chars with
  | nil => rfl
  | cons d ds =>
    rw [hl] at h
    obtain ⟨rfl, -⟩ := List.cons.inj h
    have hspace := lead.isBlank c (hl ▸ List.mem_cons_self)
    rw [hc] at hspace
    cases hspace

theorem not_json_of_prose {c : Char} {p t : List Char} {k : Bracket} {v : Value}
    (hp : ∀ d ∈ c :: p, isOpening d = false) (hblank : isBlank c = false) (hquote : c ≠ '"') :
    Json.parse (c :: p ++ k.opener :: t) ≠ .ok v := by
  intro h
  obtain ⟨lead, trail, doc, htext, -, -, -⟩ := Json.exists_lays_of_parse h
  have hlead : lead.chars = [] := lead_eq_nil hblank htext
  rw [hlead, List.nil_append] at htext
  cases doc with
  | word w =>
    have hmem : k.opener ∈ w.text ++ trail.chars := by
      rw [show w.text ++ trail.chars = c :: p ++ k.opener :: t from htext.symm]
      exact List.mem_append_right _ List.mem_cons_self
    rcases List.mem_append.1 hmem with hword | hspace
    · have hplain := w.plain _ hword
      cases k <;> cases hplain
    · have hplain := trail.blank _ hspace
      cases k <;> cases hplain
  | string gs =>
    obtain ⟨rfl, -⟩ := List.cons.inj htext
    exact hquote rfl
  | group k' es tail =>
    rw [Doc.text_group] at htext
    obtain ⟨rfl, -⟩ := List.cons.inj htext
    have hopen := hp k'.opener List.mem_cons_self
    rw [isOpening_opener] at hopen
    cases hopen

theorem parseBody_of_firstValue? {body candidate : List Char} {v : Value}
    (hfirst : firstValue? body = some candidate)
    (hbody : ∀ w, Json.parse body = .ok w → Json.parse candidate = .ok w)
    (h : Json.parse (repair candidate) = .ok v) : parseBody body = .ok v := by
  -- strict JSON is its own repair, so that the three readings agree wherever they succeed
  have hstrict : ∀ w, Json.parse candidate = .ok w → w = v := by
    intro w hw
    rw [repair_of_json hw, hw] at h
    exact Except.ok.inj h
  unfold parseBody
  split
  · rename_i w hw
    rw [hstrict w (hbody w hw)]
  · rw [hfirst]
    simp only
    split
    · rename_i w hw
      rw [hstrict w hw]
    · rw [h]

theorem parseBody_append {p t : List Char} {k : Bracket} {v : Value}
    (hp : ∀ c ∈ p, isOpening c = false) (hhead : ∀ c ∈ p.head?, isBlank c = false ∧ c ≠ '"')
    (hheld : takeBalanced 0 .outside (k.opener :: t) = k.opener :: t)
    (h : Json.parse (repair (k.opener :: t)) = .ok v) :
    parseBody (p ++ k.opener :: t) = .ok v := by
  apply parseBody_of_firstValue? (firstValue?_append hp hheld) _ h
  intro w hw
  cases p with
  | nil => exact hw
  | cons c p =>
    obtain ⟨hblank, hquote⟩ := hhead c rfl
    exact absurd hw (not_json_of_prose hp hblank hquote)

end Bodies

structure Stump (s : List Char) : Prop where
  solid : EndsSolid s
  tidy : Tidy .outside s
  opener : ∃ (k : Bracket) (t : List Char), s = k.opener :: t
  held : takeBalanced 0 .outside s = s

structure Remnant (s : List Char) (v : Value) : Prop extends Stump s where
  repaired : Json.parse (repair s) = .ok v

theorem stump_of_start {k : Bracket} {es : List (Entry Doc)} {tail : Tail} {s r : List Char}
    (hstart : s ++ r = (Doc.group k es tail).text) (hsolid : EndsSolid s) : Stump s where
  solid := hsolid
  tidy := (along_append.1 (hstart ▸ (composable_passes.doc (.group k es tail)).along)).1
  opener := by
    obtain ⟨t, c, rfl, -⟩ := hsolid
    rw [Doc.text_group, List.append_assoc] at hstart
    cases t with
    | nil =>
      obtain ⟨rfl, -⟩ := List.cons.inj hstart
      exact ⟨k, [], rfl⟩
    | cons x t =>
      obtain ⟨rfl, -⟩ := List.cons.inj hstart
      exact ⟨k, t ++ [c], rfl⟩
  held := by
    have hgroup := takeBalanced_group k es tail []
    rw [List.append_nil, ← hstart] at hgroup
    exact takeBalanced_of_append hgroup

theorem remnant_of_cut {k : Bracket} {es : List (Entry Doc)} {tail : Tail} {s r : List Char}
    {v : Value} (hd : (Doc.group k es tail).Strict)
    (hheight : (Doc.group k es tail).height ≤ Json.depthLimit)
    (hstart : s ++ r = (Doc.group k es tail).text) (hsolid : EndsSolid s)
    (hcut : Cut (.group k es tail) s v) : Remnant s v :=
  ⟨stump_of_start hstart hsolid, parse_repair_of_cut hcut hd hheight⟩

namespace Stump

variable {s b : List Char}

theorem tidy_lead (h : Stump s) (lead : Blanks) : Tidy .outside (lead.chars ++ s) := by
  have hpasses := composable_passes.blanks lead
  rw [Tidy, along_append, hpasses.run]
  exact ⟨hpasses.along, h.tidy⟩

theorem trimChars_eq (h : Stump s) {a : List Char} (ha : ∀ c ∈ a, isBlank c = true)
    (hb : ∀ c ∈ b, isBlank c = true) : trimChars (a ++ (s ++ b)) = s := by
  obtain ⟨k, t, rfl⟩ := h.opener
  have hopen : isBlank k.opener = false := by
    cases k <;> decide
  exact Text.trimChars_of_edges ha hopen h.solid hb

theorem body_eq (h : Stump s) : body s = s := by
  have hbody := body_prose (p := []) (by decide) h.tidy
  rwa [List.nil_append] at hbody

theorem parse_error (h : Stump s) (lead : Blanks) (hb : ∀ c ∈ b, isBlank c = true) {f : Json.Fault}
    (hrepair : Json.parse (repair s) = .error f) :
    parse (String.ofList (lead.chars ++ (s ++ b))) = .error (.invalid (repair s) f) := by
  -- strict JSON is its own repair, so that neither of the strict readings has a value
  have hstrict : ∃ f', Json.parse s = .error f' := by
    cases hs : Json.parse s with
    | error f' => exact ⟨f', rfl⟩
    | ok v =>
      rw [repair_of_json hs, hs] at hrepair
      cases hrepair
  obtain ⟨f', hf'⟩ := hstrict
  have hfirst : firstValue? s = some s := by
    obtain ⟨k, t, rfl⟩ := h.opener
    exact firstValue?_append (s := []) (by simp) h.held
  rw [parse, String.toList_ofList, h.trimChars_eq lead.isBlank hb, h.body_eq, parseBody]
  simp only [hf', hfirst, hrepair]

end Stump

namespace Remnant

variable {s b : List Char} {v : Value}

theorem parseBody_eq (h : Remnant s v) {p : List Char} (hp : ∀ c ∈ p, isOpening c = false)
    (hhead : ∀ c ∈ p.head?, isBlank c = false ∧ c ≠ '"') : parseBody (p ++ s) = .ok v := by
  obtain ⟨⟨-, -, ⟨k, t, rfl⟩, hheld⟩, hrepaired⟩ := h
  exact parseBody_append hp hhead hheld hrepaired

theorem parseBody_self (h : Remnant s v) : parseBody s = .ok v :=
  h.parseBody_eq (p := []) (by simp) (by simp)

theorem parse_prose (h : Remnant s v) (lead : Blanks) (hb : ∀ c ∈ b, isBlank c = true)
    {p : List Char} (hbracket : ∀ c ∈ p, isOpening c = false) (hticks : ¬ ticks <:+: p)
    (hquote : ∀ c ∈ (dropBlanks p).head?, c ≠ '"') :
    parse (String.ofList (p ++ (lead.chars ++ (s ++ b)))) = .ok v := by
  rw [parse, String.toList_ofList]
  -- blank prose is trimmed off with the blanks of the JSON
  by_cases hnil : dropBlanks p = []
  · have hblank : ∀ c ∈ p ++ lead.chars, isBlank c = true := by
      intro c hc
      exact (List.mem_append.1 hc).elim (Text.dropBlanks_eq_nil_iff.1 hnil c) (lead.isBlank c)
    rw [← List.append_assoc, h.trimChars_eq hblank hb, h.body_eq]
    exact h.parseBody_self
  · have hsuffix : dropBlanks p <:+ p := List.dropWhile_suffix isBlank
    have htrim : trimChars (p ++ (lead.chars ++ (s ++ b))) =
        dropBlanks p ++ (lead.chars ++ s) := by
      have hends := (h.solid.append lead.chars).append (dropBlanks p)
      rw [trimChars, Text.dropBlanks_append_of_ne_nil hnil, ← List.append_assoc lead.chars,
        ← List.append_assoc, Text.dropEndBlanks_of_endsSolid hends hb]
    rw [htrim, body_prose (fun hrun => hticks (hrun.trans hsuffix.isInfix)) (h.tidy_lead lead),
      ← List.append_assoc]
    apply h.parseBody_eq
    · intro c hc
      rcases List.mem_append.1 hc with hc | hc
      · exact hbracket c (hsuffix.subset hc)
      · exact isOpening_eq_false_of_isPlain (lead.isPlain c hc)
    · intro c hc
      rw [List.head?_append_of_ne_nil _ hnil] at hc
      exact ⟨Text.isBlank_of_head_dropBlanks hc, hquote c hc⟩

theorem parse_fence (h : Remnant s v) (lead : Blanks) (hb : ∀ c ∈ b, isBlank c = true)
    {line : List Char} (hline : '\n' ∉ line) :
    parse (String.ofList (ticks ++ (line ++ ['\n']) ++ (lead.chars ++ (s ++ b)))) = .ok v := by
  have htrim : trimChars (ticks ++ (line ++ ['\n']) ++ (lead.chars ++ (s ++ b))) =
      ticks ++ (line ++ '\n' :: (lead.chars ++ s)) := by
    have hends : EndsSolid (ticks ++ (line ++ '\n' :: (lead.chars ++ s))) := by
      have hsolid := (h.solid.append lead.chars).append (ticks ++ (line ++ ['\n']))
      simpa only [List.append_assoc, List.singleton_append] using hsolid
    have hsplit : ticks ++ (line ++ ['\n']) ++ (lead.chars ++ (s ++ b)) =
        ticks ++ (line ++ '\n' :: (lead.chars ++ s)) ++ b := by
      simp only [List.append_assoc, List.cons_append, List.nil_append]
    have hdrop : dropBlanks (ticks ++ (line ++ '\n' :: (lead.chars ++ s)) ++ b) =
        ticks ++ (line ++ '\n' :: (lead.chars ++ s)) ++ b :=
      Text.dropBlanks_cons_of_not (by decide)
    rw [hsplit, trimChars, hdrop, Text.dropEndBlanks_of_endsSolid hends hb]
  have hinner : trimChars (lead.chars ++ s) = s := by
    have htrim := h.trimChars_eq (b := []) lead.isBlank (by simp)
    rwa [List.append_nil] at htrim
  rw [parse, String.toList_ofList, htrim, body_fence hline (h.tidy_lead lead), hinner]
  exact h.parseBody_self

theorem parse_front (h : Remnant s v) (lead : Blanks) (hb : ∀ c ∈ b, isBlank c = true)
    {front : List Char} (hfront : Front front) :
    parse (String.ofList (front ++ (lead.chars ++ (s ++ b)))) = .ok v := by
  cases hfront with
  | prose hbracket hticks hquote => exact h.parse_prose lead hb hbracket hticks hquote
  | fence hline => exact h.parse_fence lead hb hline

end Remnant

theorem exists_cut {d : Doc} (hd : d.Strict) {trail : Blanks} {c r : List Char} (hc : c ≠ [])
    (h : c ++ r = d.text ++ trail.chars) (hbroken : ¬ Broken d c) :
    ∃ s b r' v, c = s ++ b ∧ (∀ x ∈ b, isBlank x = true) ∧ EndsSolid s ∧ s ++ r' = d.text ∧
      Cut d s v := by
  rcases List.append_eq_append_iff.1 h with ⟨q, hq, -⟩ | ⟨b, rfl, hb⟩
  · rcases Json.salvaged_or_broken hd hq.symm hc with ⟨s, b, v, rfl, hb, hsolid, hcut⟩ | hbroken'
    · refine ⟨s, b, b ++ q, v, rfl, hb, hsolid, ?_, hcut⟩
      rw [hq, List.append_assoc]
    · exact absurd hbroken' hbroken
  · refine ⟨d.text, b, [], d.value, rfl, ?_, d.text_endsSolid, List.append_nil _, Cut.whole d⟩
    exact Json.isBlank_of_append trail.isBlank hb.symm

theorem parse_cut {t : List Char} {v : Value} (h : Json.parse t = .ok v)
    (hv : v.isGroup = true) :
    (∃ lead trail d, Lays t v lead trail d) ∧
      ∀ lead trail d, Lays t v lead trail d →
        ∀ c r, c ≠ [] → c ++ r = d.text ++ trail.chars → ¬ Broken d c →
          (∃ w, Cut d (dropEndBlanks c) w) ∧
            ∀ w, Cut d (dropEndBlanks c) w →
              ∀ front, Front front → parse (String.ofList (front ++ (lead.chars ++ c))) = .ok w := by
  refine ⟨Json.exists_lays_of_parse h, ?_⟩
  rintro lead trail d ⟨-, hvalue, hstrict, hheight⟩ c r hc hstart hbroken
  obtain ⟨s, b, r', w, rfl, hb, hsolid, hs, hcut⟩ := exists_cut hstrict hc hstart hbroken
  rw [Text.dropEndBlanks_of_endsSolid hsolid hb]
  refine ⟨⟨w, hcut⟩, ?_⟩
  intro w' hcut' front hfront
  obtain ⟨k, es, tail, rfl⟩ := Json.Doc.exists_group_of_value (hvalue.symm ▸ hv)
  exact (remnant_of_cut hstrict hheight hs hsolid hcut').parse_front lead hb hfront

def letter (c : Char) (h : c ≠ '"' ∧ c ≠ '\\' ∧ 0x20 ≤ c.toNat) : Json.Glyph :=
  ⟨[c], c, Json.Spells.plain h.1 h.2.1 h.2.2⟩

def letters : List Json.Glyph := [letter 'a' (by decide), letter 'b' (by decide)]

def lettersDoc : Doc :=
  .group .square [⟨none, Blanks.none, .string letters, Blanks.none⟩] ⟨false, Blanks.none⟩

theorem lettersDoc_lays :
    Lays lettersDoc.text (.array [.string "ab"]) Blanks.none Blanks.none lettersDoc where
  text := (List.append_nil _).symm
  value := rfl
  strict := by
    refine Json.Doc.strict_group.2 ⟨?_, rfl⟩
    intro e he
    rw [List.mem_singleton.1 he]
    exact ⟨rfl, trivial⟩
  height := by decide

theorem eq_of_singleton_eq {α : Type} {a b : α} {as bs : List α} (h : [a] = as ++ b :: bs) :
    as = [] ∧ a = b := by
  cases as with
  | nil => exact ⟨rfl, (List.cons.inj h).1⟩
  | cons c as =>
    have htail := (List.cons.inj h).2
    exact absurd htail.symm (List.append_ne_nil_of_right_ne_nil as (List.cons_ne_nil b bs))

theorem four_le_of_broken {c : List Char} (h : Broken lettersDoc c) : 4 ≤ c.length := by
  generalize hd : lettersDoc = d at h
  cases h with
  | word => cases hd
  | escape => cases hd
  | label k done next tail hlabel =>
    injection hd with hk hes
    obtain ⟨rfl, rfl⟩ := eq_of_singleton_eq hes
    cases hlabel
  | inside k done next tail hbroken =>
    injection hd with hk hes
    obtain ⟨rfl, rfl⟩ := eq_of_singleton_eq hes
    generalize hs : Doc.string letters = d at hbroken
    cases hbroken with
    | word => cases hs
    | label => cases hs
    | inside => cases hs
    | escape kept g next htext hlen hrest =>
      simp only [Bracket.begun, List.length_append, List.length_cons]
      omega

theorem parse_cut_letters :
    Json.parse lettersDoc.text = .ok (.array [.string "ab"]) ∧
      parse (String.ofList ("Sure, here:\n".toList ++ ['[', '"', 'a'])) = .ok (.array [.string "a"]) ∧
        parse (String.ofList (ticks ++ ("json".toList ++ ['\n']) ++ ['[', '"', 'a'])) =
          .ok (.array [.string "a"]) := by
  have hjson := lettersDoc_lays.parse
  have hletter : Cut lettersDoc ['[', '"', 'a'] (.array [.string "a"]) :=
    Cut.inside .square [] [] ⟨false, Blanks.none⟩
      (Cut.string [letter 'a' (by decide)] [letter 'b' (by decide)])
  have hbroken : ¬ Broken lettersDoc ['[', '"', 'a'] := by
    intro h
    exact absurd (four_le_of_broken h) (by decide)
  have hsolid : dropEndBlanks ['[', '"', 'a'] = ['[', '"', 'a'] := by decide
  have hparse := ((parse_cut hjson rfl).2 _ _ _ lettersDoc_lays ['[', '"', 'a'] ['b', '"', ']']
    (by decide) rfl hbroken).2 _ (hsolid ▸ hletter)
  have hprose : Front "Sure, here:\n".toList := by
    have hhead : (dropBlanks "Sure, here:\n".toList).head? = some 'S' := by decide +kernel
    apply Front.prose
    · have hall : ("Sure, here:\n".toList.all fun c => !isOpening c) = true := by decide +kernel
      intro c hc
      simpa only [Bool.not_eq_true'] using List.all_eq_true.1 hall c hc
    · decide +kernel
    · intro c hc
      rw [hhead] at hc
      cases hc
      decide
  have hfence : Front (ticks ++ ("json".toList ++ ['\n'])) := Front.fence (by decide +kernel)
  exact ⟨hjson, hparse _ hprose, hparse _ hfence⟩

def quotedProse : List Char := [' ', '"', 'x', ' ']

theorem parse_quotedProse :
    Lays lettersDoc.text (.array [.string "ab"]) Blanks.none Blanks.none lettersDoc ∧
      ['[', '"'] ++ ['a', 'b', '"', ']'] = lettersDoc.text ∧ ¬ Broken lettersDoc ['[', '"'] ∧
        Cut lettersDoc ['[', '"'] (.array [.string ""]) ∧
          (quotedProse.any fun c => isOpening c || isClosingBracket c) = false ∧
            ¬ ticks <:+: quotedProse ∧ quotedProse.head? ≠ some '"' ∧
              parse (String.ofList (quotedProse ++ ['[', '"'])) = .ok (.string "x [") := by
  refine ⟨lettersDoc_lays, rfl, ?_, ?_, by decide, by decide, by decide, by decide +kernel⟩
  · intro h
    exact absurd (four_le_of_broken h) (by decide)
  · exact Cut.inside .square [] [] ⟨false, Blanks.none⟩ (Cut.string [] letters)

end SourceDigest.Reply
