import SourceDigest.Proofs.Reply.Strict

namespace SourceDigest.Reply

open Json (Value)
open Text (EndsSolid dropBlanks dropEndBlanks isBlank trimChars)

def lineBreaks : List (List Char) := [['\n'], ['\r', '\n']]

def OpeningLine (o : List Char) : Prop :=
  ∃ tag gap br, o = ticks ++ (tag ++ (gap ++ br)) ∧ (∀ c ∈ tag, isTagChar c = true) ∧
    (∀ c ∈ gap, isGap c = true) ∧ br ∈ lineBreaks

theorem afterBreak?_eq_some_iff {s r : List Char} :
    afterBreak? s = some r ↔ ∃ br ∈ lineBreaks, s = br ++ r := by
  constructor
  · intro h
    unfold afterBreak? at h
    split at h
    · cases h
      exact ⟨['\n'], by decide, rfl⟩
    · cases h
      exact ⟨['\r', '\n'], by decide, rfl⟩
    · cases h
  · rintro ⟨br, hbr, rfl⟩
    simp only [lineBreaks, List.mem_cons, List.not_mem_nil, or_false] at hbr
    rcases hbr with rfl | rfl <;> rfl

theorem dropWhile_tag_gap {tag gap br : List Char} (htag : ∀ c ∈ tag, isTagChar c = true)
    (hgap : ∀ c ∈ gap, isGap c = true) (hbr : br ∈ lineBreaks) (r : List Char) :
    ((tag ++ (gap ++ (br ++ r))).dropWhile isTagChar).dropWhile isGap = br ++ r := by
  simp only [lineBreaks, List.mem_cons, List.not_mem_nil, or_false] at hbr
  have hrest : (br ++ r).dropWhile isTagChar = br ++ r ∧ (br ++ r).dropWhile isGap = br ++ r := by
    rcases hbr with rfl | rfl
    all_goals
      exact ⟨List.dropWhile_cons_of_neg (by decide +kernel), List.dropWhile_cons_of_neg (by decide)⟩
  rw [List.dropWhile_append_of_pos htag]
  cases gap with
  | nil => rw [List.nil_append, hrest.1, hrest.2]
  | cons c gap =>
    have hc : isTagChar c ≠ true := by
      have hgapchar := hgap c List.mem_cons_self
      simp only [isGap, Bool.or_eq_true, beq_iff_eq] at hgapchar
      rcases hgapchar with rfl | rfl <;> decide +kernel
    rw [List.cons_append, List.dropWhile_cons_of_neg hc, ← List.cons_append,
      List.dropWhile_append_of_pos hgap, hrest.2]

theorem afterOpening?_eq_some_iff {s r : List Char} :
    afterOpening? s = some r ↔ ∃ o, OpeningLine o ∧ s = o ++ r := by
  constructor
  · intro h
    unfold afterOpening? at h
    split at h
    · rename_i hticks
      obtain ⟨t, rfl⟩ := List.isPrefixOf_iff_prefix.1 hticks
      obtain ⟨br, hbr, hrest⟩ := afterBreak?_eq_some_iff.1 h
      have htake : ∀ (f : Char → Bool) (u : List Char), ∀ c ∈ u.takeWhile f, f c = true :=
        fun f u => List.all_eq_true.1 List.all_takeWhile
      refine ⟨_, ⟨t.takeWhile isTagChar, (t.dropWhile isTagChar).takeWhile isGap, br, rfl,
        htake _ _, htake _ _, hbr⟩, ?_⟩
      have hsplit : t = t.takeWhile isTagChar ++
          ((t.dropWhile isTagChar).takeWhile isGap ++ (br ++ r)) := by
        have hdrop : (t.dropWhile isTagChar).dropWhile isGap = br ++ r := hrest
        rw [← hdrop, List.takeWhile_append_dropWhile, List.takeWhile_append_dropWhile]
      conv_lhs => rw [hsplit]
      simp only [List.append_assoc]
    · cases h
  · rintro ⟨_, ⟨tag, gap, br, rfl, htag, hgap, hbr⟩, rfl⟩
    simp only [List.append_assoc]
    have hticks : ticks.isPrefixOf (ticks ++ (tag ++ (gap ++ (br ++ r)))) = true :=
      List.isPrefixOf_iff_prefix.2 (List.prefix_append ticks _)
    have hdrop : (ticks ++ (tag ++ (gap ++ (br ++ r)))).drop 3 = tag ++ (gap ++ (br ++ r)) := rfl
    rw [afterOpening?, if_pos hticks, hdrop, dropWhile_tag_gap htag hgap hbr]
    exact afterBreak?_eq_some_iff.2 ⟨br, hbr, rfl⟩

theorem afterOpening?_tag {tag first : List Char} (htag : ∀ c ∈ tag, isTagChar c = true)
    (hfirst : first ∈ lineBreaks) (r : List Char) :
    afterOpening? (ticks ++ (tag ++ (first ++ r))) = some r := by
  apply afterOpening?_eq_some_iff.2
  refine ⟨ticks ++ (tag ++ ([] ++ first)), ⟨tag, [], first, rfl, htag, by simp, hfirst⟩, ?_⟩
  simp only [List.nil_append, List.append_assoc]

theorem afterOpening?_stray {p : List Char} (hp : ¬ ticks <:+: p) (hne : p ≠ []) (q : List Char) :
    afterOpening? (p ++ (ticks ++ q)) = none := by
  have htick : ∀ r, afterBreak? ((('\x60' :: r).dropWhile isTagChar).dropWhile isGap) = none := by
    intro r
    rw [List.dropWhile_cons_of_neg (by decide +kernel), List.dropWhile_cons_of_neg (by decide)]
    rfl
  rw [afterOpening?]
  split
  · rename_i hopens
    obtain ⟨t, ht⟩ := List.isPrefixOf_iff_prefix.1 hopens
    -- at most two backticks stand before the three, so that one of these is where the tag would be
    rcases p with - | ⟨a, - | ⟨b, - | ⟨c, p⟩⟩⟩
    · exact absurd rfl hne
    · exact htick q
    · exact htick ('\x60' :: q)
    · simp only [ticks, List.cons_append, List.cons.injEq] at ht
      obtain ⟨rfl, rfl, rfl, -⟩ := ht
      exact absurd ⟨[], p, rfl⟩ hp
  · rfl

theorem fenced?_append {p q r inner : List Char} (hp : ¬ ticks <:+: p)
    (hopen : afterOpening? (ticks ++ q) = some r) (hclose : beforeClosing? r = some inner) :
    fenced? (p ++ (ticks ++ q)) = some inner := by
  induction p with
  | nil =>
    have hbind : (afterOpening? (ticks ++ q)).bind beforeClosing? = some inner := by
      rw [hopen]
      exact hclose
    show fenced? ('\x60' :: ('\x60' :: '\x60' :: q)) = _
    rw [fenced?, show '\x60' :: ('\x60' :: '\x60' :: q) = ticks ++ q from rfl, hbind]
  | cons c p ih =>
    have hstray := afterOpening?_stray hp (List.cons_ne_nil c p) q
    rw [List.cons_append] at hstray ⊢
    rw [fenced?, hstray]
    exact ih fun h => hp (h.trans (List.suffix_cons c p).isInfix)

theorem beforeClosing?_tidy {l : Lexical} {s : List Char} (h : Tidy l s) (r : List Char) :
    ∃ inner b, s = inner ++ b ∧ (∀ c ∈ b, isBlank c = true) ∧
      beforeClosing? (s ++ '\n' :: (ticks ++ r)) = some inner := by
  induction s generalizing l with
  | nil => exact ⟨[], [], rfl, by simp, rfl⟩
  | cons c s ih =>
    by_cases hclose : isClosing (c :: s ++ '\n' :: (ticks ++ r)) = true
    · obtain ⟨rfl, rfl, -⟩ := eq_return_of_isClosing h rfl hclose
      refine ⟨[], ['\r'], rfl, ?_, ?_⟩
      · intro c hc
        rw [List.mem_singleton.1 hc]
        decide
      · rw [List.cons_append] at hclose ⊢
        rw [beforeClosing?, if_pos hclose]
    · obtain ⟨inner, b, rfl, hb, hinner⟩ := ih h.2
      refine ⟨c :: inner, b, rfl, hb, ?_⟩
      rw [List.cons_append] at hclose ⊢
      rw [beforeClosing?, if_neg hclose, hinner]
      rfl

theorem passes_append_of_isPlain {t b : List Char} (ht : Passes Lexical.Admits .outside t)
    (hb : ∀ c ∈ b, Json.isPlain c = true) : Passes Lexical.Admits .outside (t ++ b) :=
  ht.append (composable_passes.plain hb)

theorem body_fenced {t p tag first last : List Char} (ht : Passes Lexical.Admits .outside t)
    (hp : ¬ ticks <:+: p) (htag : ∀ c ∈ tag, isTagChar c = true) (hfirst : first ∈ lineBreaks)
    (hlast : last ∈ lineBreaks) (s : List Char) :
    body (p ++ (ticks ++ (tag ++ (first ++ (t ++ (last ++ (ticks ++ s))))))) = trimChars t := by
  -- the return of a closing line break is read as a blank behind the JSON
  obtain ⟨b, rfl, hblank, htidy⟩ : ∃ b, last = b ++ ['\n'] ∧ (∀ c ∈ b, isBlank c = true) ∧
      Passes Lexical.Admits .outside (t ++ b) := by
    simp only [lineBreaks, List.mem_cons, List.not_mem_nil, or_false] at hlast
    rcases hlast with rfl | rfl
    · exact ⟨[], rfl, by simp, passes_append_of_isPlain ht (by simp)⟩
    · exact ⟨['\r'], rfl, List.forall_mem_singleton.2 rfl,
        passes_append_of_isPlain ht (List.forall_mem_singleton.2 rfl)⟩
  obtain ⟨inner, e, hinner, he, hclose⟩ := beforeClosing?_tidy htidy.along s
  have htrim : trimChars inner = trimChars t := by
    rw [← Text.trimChars_append he, ← hinner, Text.trimChars_append hblank]
  have hbody : t ++ (b ++ ['\n'] ++ (ticks ++ s)) = t ++ b ++ '\n' :: (ticks ++ s) := by
    simp only [List.append_assoc, List.cons_append, List.nil_append]
  rw [hbody, body, fenced?_append hp (afterOpening?_tag htag hfirst _) hclose]
  exact htrim

theorem trimChars_ticks (p x s : List Char) :
    trimChars (p ++ (ticks ++ (x ++ (ticks ++ s)))) =
      dropBlanks p ++ (ticks ++ (x ++ (ticks ++ dropEndBlanks s))) := by
  have hends : EndsSolid (ticks ++ (x ++ ticks)) := by
    have hticks : EndsSolid ticks := ⟨['\x60', '\x60'], '\x60', rfl, by decide⟩
    exact (hticks.append x).append ticks
  have haround := Text.trimChars_around (s := ['\x60', '\x60'] ++ (x ++ ticks)) (by decide) hends p s
  simpa only [ticks, List.append_assoc, List.cons_append, List.nil_append] using haround

theorem parse_fenced {t : List Char} {v : Value} (h : Json.parse t = .ok v) {p : List Char}
    (hp : ¬ ticks <:+: p) {tag : List Char} (htag : ∀ c ∈ tag, isTagChar c = true)
    {first last : List Char} (hfirst : first ∈ lineBreaks) (hlast : last ∈ lineBreaks)
    (s : List Char) :
    parse (String.ofList
      (p ++ (ticks ++ (tag ++ (first ++ (t ++ (last ++ (ticks ++ s)))))))) = .ok v := by
  obtain ⟨lead, trail, doc, rfl, rfl, hstrict, hheight⟩ := Json.exists_lays_of_parse h
  have hpasses : Passes Lexical.Admits .outside (lead.chars ++ (doc.text ++ trail.chars)) :=
    (composable_passes.blanks lead).append
      ((composable_passes.doc doc).append (composable_passes.blanks trail))
  have hprose : ¬ ticks <:+: dropBlanks p := by
    intro hrun
    exact hp (hrun.trans (List.dropWhile_suffix isBlank).isInfix)
  have htrim := trimChars_ticks p
    (tag ++ (first ++ (lead.chars ++ (doc.text ++ trail.chars) ++ last))) s
  simp only [List.append_assoc] at htrim ⊢
  have hbody := body_fenced hpasses hprose htag hfirst hlast (dropEndBlanks s)
  simp only [List.append_assoc] at hbody
  rw [parse, String.toList_ofList, htrim, hbody, trimChars_doc, parseBody,
    Json.parse_doc_text hstrict hheight]

theorem parse_fenced_fencedStrings :
    Json.parse fencedStrings.toList = .ok fencedStringsValue ∧
      parse (String.ofList ("Here: ``".toList ++ (ticks ++ ("json".toList ++ (['\n'] ++
        (fencedStrings.toList ++ (['\r', '\n'] ++ (ticks ++ "\n```\n[]\n```".toList)))))))) =
          .ok fencedStringsValue := by
  have h : Json.parse fencedStrings.toList = .ok fencedStringsValue := by decide +kernel
  have htag : ∀ c ∈ "json".toList, isTagChar c = true := List.all_eq_true.1 (by decide +kernel)
  exact ⟨h, parse_fenced h (by decide +kernel) htag (by decide) (by decide) _⟩

end SourceDigest.Reply
