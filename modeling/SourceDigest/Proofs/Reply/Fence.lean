import SourceDigest.Proofs.Json.Document
import SourceDigest.Proofs.Text.Trimming
import SourceDigest.Reply.Fence
import SourceDigest.Reply.Repair

namespace SourceDigest.Reply

open Json (Composable Glyph Spells ne_of_test)

theorem beforeClosing?_eq_none {s : List Char} (h : ∀ t, t <:+ s → isClosing t = false) :
    beforeClosing? s = none := by
  cases hb : beforeClosing? s with
  | none => rfl
  | some inner =>
    obtain ⟨r, hr, hclose⟩ := isClosing_append_of_beforeClosing? hb
    have hopen := h r ⟨inner, hr.symm⟩
    rw [hclose] at hopen
    cases hopen

theorem afterBreak?_suffix {s r : List Char} (h : afterBreak? s = some r) : r <:+ s := by
  unfold afterBreak? at h
  split at h
  · cases h
    exact List.suffix_cons _ _
  · cases h
    exact (List.suffix_cons _ _).trans (List.suffix_cons _ _)
  · cases h

theorem afterOpening?_suffix {s r : List Char} (h : afterOpening? s = some r) : r <:+ s := by
  unfold afterOpening? at h
  split at h
  · apply (afterBreak?_suffix h).trans
    apply (List.dropWhile_suffix isGap).trans
    exact (List.dropWhile_suffix isTagChar).trans (List.drop_suffix 3 s)
  · cases h

theorem fenced?_eq_none_of_not_closing {s : List Char} (h : ∀ t, t <:+ s → isClosing t = false) :
    fenced? s = none := by
  induction s with
  | nil => rfl
  | cons c s ih =>
    have htail := ih fun t ht => h t (ht.trans (List.suffix_cons c s))
    have hhead : (afterOpening? (c :: s)).bind beforeClosing? = none := by
      cases ho : afterOpening? (c :: s) with
      | none => rfl
      | some r =>
        exact beforeClosing?_eq_none fun t ht => h t (ht.trans (afterOpening?_suffix ho))
    rw [fenced?, hhead]
    exact htail

def Lexical.Admits : Lexical → Char → Prop
  | .outside, c => c ≠ '\x60'
  | _, c => c ≠ '\n' ∧ c ≠ '\r'

instance Lexical.decidableAdmits : (l : Lexical) → (c : Char) → Decidable (l.Admits c)
  | .outside, c => inferInstanceAs (Decidable (c ≠ '\x60'))
  | .inString, c => inferInstanceAs (Decidable (c ≠ '\n' ∧ c ≠ '\r'))
  | .escaped, c => inferInstanceAs (Decidable (c ≠ '\n' ∧ c ≠ '\r'))

def Lexical.Inks (l : Lexical) (c : Char) : Prop := l ≠ .outside ∧ c ≠ '\n' ∧ c ≠ '\r'

theorem Lexical.Inks.admits {l : Lexical} {c : Char} (h : l.Inks c) : l.Admits c := by
  cases l with
  | outside => exact absurd rfl h.1
  | inString => exact h.2
  | escaped => exact h.2

def Along (A : Lexical → Char → Prop) : Lexical → List Char → Prop
  | _, [] => True
  | l, c :: s => A l c ∧ Along A (l.step c) s

section Along

variable {A B : Lexical → Char → Prop} {l : Lexical} {s t : List Char}

theorem along_append : Along A l (s ++ t) ↔ Along A l s ∧ Along A (l.run s) t := by
  induction s generalizing l with
  | nil => exact (iff_of_eq (true_and _)).symm
  | cons c s ih =>
    rw [List.cons_append, Along, Along, ih, and_assoc]
    rfl

theorem Along.mono (hAB : ∀ l c, A l c → B l c) (h : Along A l s) : Along B l s := by
  induction s generalizing l with
  | nil => trivial
  | cons c s ih => exact ⟨hAB l c h.1, ih h.2⟩

structure Passes (A : Lexical → Char → Prop) (l : Lexical) (s : List Char) : Prop where
  along : Along A l s
  run : l.run s = l

theorem Passes.nil (A : Lexical → Char → Prop) (l : Lexical) : Passes A l [] := ⟨trivial, rfl⟩

theorem Passes.append (hs : Passes A l s) (ht : Passes A l t) : Passes A l (s ++ t) := by
  constructor
  · rw [along_append, hs.run]
    exact ⟨hs.along, ht.along⟩
  · rw [Lexical.run_append, hs.run, ht.run]

theorem passes_of_forall (h : ∀ c ∈ s, A l c ∧ l.step c = l) : Passes A l s := by
  induction s with
  | nil => exact Passes.nil A l
  | cons c s ih =>
    obtain ⟨hc, hstep⟩ := h c List.mem_cons_self
    obtain ⟨halong, hrun⟩ := ih fun d hd => h d (List.mem_cons_of_mem c hd)
    constructor
    · rw [Along, hstep]
      exact ⟨hc, halong⟩
    · show (l.step c).run s = l
      rw [hstep]
      exact hrun

end Along

abbrev Tidy : Lexical → List Char → Prop := Along Lexical.Admits

theorem not_ticks_of_tidy_append {s r : List Char} (h : Tidy .outside s)
    (hr : ticks.isPrefixOf (r.dropWhile isGap) = false) :
    ticks.isPrefixOf ((s ++ r).dropWhile isGap) = false := by
  induction s with
  | nil => exact hr
  | cons c s ih =>
    by_cases hc : isGap c = true
    · have hquote : c ≠ '"' := ne_of_test hc (by decide)
      have hstep : Lexical.step .outside c = .outside := if_neg hquote
      rw [List.cons_append, List.dropWhile_cons_of_pos hc]
      exact ih (hstep ▸ h.2)
    · rw [List.cons_append, List.dropWhile_cons_of_neg hc, ticks, List.isPrefixOf]
      rw [beq_eq_false_iff_ne.2 (Ne.symm h.1), Bool.false_and]

theorem not_ticks_of_tidy {s : List Char} (h : Tidy .outside s) :
    ticks.isPrefixOf (s.dropWhile isGap) = false := by
  have hticks := not_ticks_of_tidy_append h (r := []) rfl
  rwa [List.append_nil] at hticks

theorem eq_return_of_isClosing {l : Lexical} {c : Char} {s r : List Char} (h : Tidy l (c :: s))
    (hr : ticks.isPrefixOf (r.dropWhile isGap) = false) (hclose : isClosing (c :: s ++ r) = true) :
    c = '\r' ∧ s = [] ∧ r.head? = some '\n' := by
  have hbehind : ∀ {m : Lexical} {u : List Char}, Tidy m ('\n' :: u) →
      ticks.isPrefixOf ((u ++ r).dropWhile isGap) = false := by
    intro m u hu
    cases m with
    | outside => exact not_ticks_of_tidy_append hu.2 hr
    | inString => exact absurd rfl hu.1.1
    | escaped => exact absurd rfl hu.1.1
  rw [List.cons_append] at hclose
  unfold isClosing afterBreak? at hclose
  split at hclose
  · rename_i t ht
    split at ht
    · rename_i hs
      cases ht
      obtain ⟨rfl, hbreak⟩ := List.cons.inj hs
      rw [← hbreak, hbehind h] at hclose
      cases hclose
    · rename_i hs
      cases ht
      obtain ⟨rfl, hreturn⟩ := List.cons.inj hs
      cases s with
      | nil => exact ⟨rfl, rfl, congrArg List.head? hreturn⟩
      | cons d s =>
        rw [List.cons_append] at hreturn
        obtain ⟨rfl, hbreak⟩ := List.cons.inj hreturn
        rw [← hbreak, hbehind h.2] at hclose
        cases hclose
    · cases ht
  · cases hclose

theorem isClosing_eq_false_of_tidy {l : Lexical} {s : List Char} (h : Tidy l s) :
    isClosing s = false := by
  cases s with
  | nil => rfl
  | cons c s =>
    apply Bool.eq_false_iff.2
    intro hclose
    obtain ⟨-, -, hhead⟩ := eq_return_of_isClosing (r := []) h rfl (by rwa [List.append_nil])
    cases hhead

theorem not_closing_of_tidy {l : Lexical} {s : List Char} (h : Tidy l s) :
    ∀ t, t <:+ s → isClosing t = false := by
  rintro t ⟨u, rfl⟩
  exact isClosing_eq_false_of_tidy (along_append.1 h).2

theorem passes_inString_of_isWordChar {s : List Char} (h : ∀ c ∈ s, Json.isWordChar c = true) :
    Passes Lexical.Inks .inString s := by
  apply passes_of_forall
  intro c hc
  have hword := h c hc
  constructor
  · exact ⟨by decide, ne_of_test hword (by decide), ne_of_test hword (by decide)⟩
  · have hbackslash : c ≠ '\\' := ne_of_test hword (by decide)
    have hquote : c ≠ '"' := ne_of_test hword (by decide)
    rw [Lexical.step, if_neg hbackslash, if_neg hquote]

theorem passes_escape {e : Char} {s : List Char} (he : e ≠ '\n' ∧ e ≠ '\r')
    (hs : Passes Lexical.Inks .inString s) : Passes Lexical.Inks .inString ('\\' :: e :: s) :=
  ⟨⟨⟨by decide, by decide, by decide⟩, ⟨by decide, he⟩, hs.along⟩, hs.run⟩

theorem passes_of_spells {t : List Char} {c : Char} (h : Spells t c) :
    Passes Lexical.Inks .inString t := by
  cases h with
  | plain hquote hbackslash hcontrol =>
    apply passes_of_forall
    intro d hd
    obtain rfl := List.mem_singleton.1 hd
    refine ⟨⟨by decide, ?_, ?_⟩, ?_⟩
    · rintro rfl
      exact absurd hcontrol (by decide)
    · rintro rfl
      exact absurd hcontrol (by decide)
    · rw [Lexical.step, if_neg hbackslash, if_neg hquote]
  | short hknown =>
    simp only [Json.shortEscapes, List.mem_cons, Prod.mk.injEq, List.not_mem_nil, or_false] at hknown
    rcases hknown with ⟨rfl, -⟩ | ⟨rfl, -⟩ | ⟨rfl, -⟩ | ⟨rfl, -⟩ | ⟨rfl, -⟩ | ⟨rfl, -⟩ | ⟨rfl, -⟩ |
      ⟨rfl, -⟩ <;> exact passes_escape (by decide) (Passes.nil _ _)
  | code hhex hlow hhigh =>
    apply passes_escape (by decide)
    exact passes_inString_of_isWordChar (Json.isWordChar_of_hexFour? hhex)
  | pair hhex hhigh hhex' hlow =>
    have hfirst := passes_escape (e := 'u') (by decide)
      (passes_inString_of_isWordChar (Json.isWordChar_of_hexFour? hhex))
    have hsecond := passes_escape (e := 'u') (by decide)
      (passes_inString_of_isWordChar (Json.isWordChar_of_hexFour? hhex'))
    exact hfirst.append hsecond

theorem passes_inked (gs : List Glyph) : Passes Lexical.Inks .inString (Json.inked gs) := by
  induction gs with
  | nil => exact Passes.nil _ _
  | cons g gs ih =>
    rw [Json.inked, List.flatMap_cons]
    exact (passes_of_spells g.spells).append ih

theorem along_quoted (gs : List Glyph) :
    Along Lexical.Inks .inString (Json.inked gs ++ ['"']) := by
  rw [along_append, (passes_inked gs).run]
  exact ⟨(passes_inked gs).along, ⟨by decide, by decide, by decide⟩, trivial⟩

theorem run_quoted (gs : List Glyph) :
    Lexical.inString.run (Json.inked gs ++ ['"']) = .outside := by
  rw [Lexical.run_append, (passes_inked gs).run]
  rfl

theorem composable_passes : Composable (Passes Lexical.Admits .outside) where
  plain h := by
    apply passes_of_forall
    intro c hc
    have hplain := h c hc
    exact ⟨ne_of_test hplain (by decide), if_neg (ne_of_test hplain (by decide))⟩
  quoted gs := by
    have hinside := (along_quoted gs).mono fun l c h => h.admits
    exact ⟨⟨by decide, hinside⟩, run_quoted gs⟩
  append := Passes.append
  group k t h := by
    have hopen : Passes Lexical.Admits .outside [k.opener] := by
      cases k <;> exact ⟨⟨by decide, trivial⟩, rfl⟩
    have hclose : Passes Lexical.Admits .outside [k.closer] := by
      cases k <;> exact ⟨⟨by decide, trivial⟩, rfl⟩
    exact hopen.append (h.append hclose)

end SourceDigest.Reply
