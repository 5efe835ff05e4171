import SourceDigest.Proofs.Json.Document

namespace SourceDigest.Json

section Parts

variable {α : Type} {step : Bool → List Char → Reading (Option α)}

inductive Steps (step : Bool → List Char → Reading (Option α)) :
    Bool → List Char → List α → List Char → Prop
  | stop {first : Bool} {s r : List Char} (h : step first s = .ok (none, r)) : Steps step first s [] r
  | more {first : Bool} {s r t : List Char} {a : α} {as : List α} (h : step first s = .ok (some a, r))
    (rest : Steps step false r as t) : Steps step first s (a :: as) t

theorem Steps.readParts {n : Nat} {first : Bool} {s r : List Char} {as : List α}
    (h : Steps step first s as r) (hn : as.length < n) :
    readParts step n first s = .ok (as, r) := by
  induction h generalizing n with
  | stop h =>
    obtain ⟨m, rfl⟩ := Nat.exists_eq_add_of_lt hn
    rw [Json.readParts, h]
  | more h rest ih =>
    obtain ⟨m, rfl⟩ := Nat.exists_eq_add_of_lt hn
    rw [Json.readParts, h]
    simp only
    rw [ih (by simp only [List.length_cons]; omega)]

theorem steps_of_readParts {n : Nat} {first : Bool} {s r : List Char} {as : List α}
    (h : readParts step n first s = .ok (as, r)) : Steps step first s as r := by
  induction n generalizing first s as with
  | zero => cases h
  | succ n ih =>
    rw [readParts] at h
    cases hs : step first s with
    | error f =>
      rw [hs] at h
      cases h
    | ok a =>
      obtain ⟨a, t⟩ := a
      rw [hs] at h
      cases a with
      | none =>
        cases h
        exact Steps.stop hs
      | some a =>
        simp only at h
        cases ht : readParts step n false t with
        | error f =>
          rw [ht] at h
          cases h
        | ok as =>
          rw [ht] at h
          cases h
          exact Steps.more hs (ih ht)

end Parts

theorem hexFour?_append {h₁ h₂ h₃ h₄ : Char} {r : List Char} {n : Nat}
    (h : hexFour? (h₁ :: h₂ :: h₃ :: h₄ :: r) = some (n, r)) (t : List Char) :
    hexFour? (h₁ :: h₂ :: h₃ :: h₄ :: t) = some (n, t) := by
  simp only [hexFour?, Option.bind_eq_bind, Option.bind_eq_some_iff, Option.pure_def,
    Option.some.injEq, Prod.mk.injEq, and_true] at h ⊢
  exact h

theorem exists_of_hexFour? {s r : List Char} {n : Nat} (h : hexFour? s = some (n, r)) :
    ∃ h₁ h₂ h₃ h₄, s = h₁ :: h₂ :: h₃ :: h₄ :: r ∧ hexFour? [h₁, h₂, h₃, h₄] = some (n, []) := by
  match s, h with
  | h₁ :: h₂ :: h₃ :: h₄ :: t, h =>
    have ht : t = r := by
      simp only [hexFour?, Option.bind_eq_bind, Option.bind_eq_some_iff, Option.pure_def,
        Option.some.injEq, Prod.mk.injEq] at h
      obtain ⟨a, -, b, -, c, -, d, -, -, ht⟩ := h
      exact ht
    subst ht
    exact ⟨h₁, h₂, h₃, h₄, rfl, hexFour?_append h []⟩

theorem readHexFour_eq_ok_iff {s r : List Char} {n : Nat} :
    readHexFour s = .ok (n, r) ↔ hexFour? s = some (n, r) := by
  unfold readHexFour
  constructor
  · intro h
    split at h
    · rename_i heq
      cases h
      exact heq
    · split at h <;> cases h
  · intro h
    rw [h]

theorem isLowSurrogate_of_high {n : Nat} (h : isHighSurrogate n = true) :
    isLowSurrogate n = false := by
  simp only [isHighSurrogate, Bool.and_eq_true, decide_eq_true_eq] at h
  simp only [isLowSurrogate, Bool.and_eq_false_iff, decide_eq_false_iff_not]
  omega

theorem readLowSurrogate_ok {high : Nat} {s r : List Char} {c : Char}
    (h : readLowSurrogate high s = .ok (c, r)) :
    ∃ h₁ h₂ h₃ h₄ low, s = '\\' :: 'u' :: h₁ :: h₂ :: h₃ :: h₄ :: r ∧
      hexFour? [h₁, h₂, h₃, h₄] = some (low, []) ∧ isLowSurrogate low = true ∧
        c = joinSurrogates high low := by
  unfold readLowSurrogate at h
  split at h
  · cases h
  · cases h
  · split at h
    · cases h
    · rename_i low t hhex
      split at h
      · rename_i hlow
        simp only [Except.ok.injEq, Prod.mk.injEq] at h
        obtain ⟨hc, rfl⟩ := h
        obtain ⟨h₁, h₂, h₃, h₄, rfl, hfour⟩ := exists_of_hexFour? (readHexFour_eq_ok_iff.1 hhex)
        exact ⟨h₁, h₂, h₃, h₄, low, rfl, hfour, hlow, hc.symm⟩
      · cases h
  · cases h
  · cases h

theorem spells_of_readEscape {s r : List Char} {c : Char} (h : readEscape s = .ok (c, r)) :
    ∃ t, s = t ++ r ∧ Spells ('\\' :: t) c := by
  unfold readEscape at h
  split at h
  case h_10 =>
    unfold readUnicode at h
    split at h
    · cases h
    · rename_i n t hhex
      obtain ⟨h₁, h₂, h₃, h₄, rfl, hfour⟩ := exists_of_hexFour? (readHexFour_eq_ok_iff.1 hhex)
      split at h
      · cases h
      · rename_i hlow
        split at h
        · rename_i hhigh
          obtain ⟨l₁, l₂, l₃, l₄, low, rfl, hfour', hlow', hc⟩ := readLowSurrogate_ok h
          rw [hc]
          exact ⟨['u', h₁, h₂, h₃, h₄, '\\', 'u', l₁, l₂, l₃, l₄], rfl,
            Spells.pair hfour hhigh hfour' hlow'⟩
        · rename_i hhigh
          cases h
          exact ⟨['u', h₁, h₂, h₃, h₄], rfl,
            Spells.code hfour (Bool.eq_false_iff.2 hlow) (Bool.eq_false_iff.2 hhigh)⟩
  all_goals cases h
  all_goals exact ⟨[_], rfl, Spells.short (by decide)⟩

theorem exists_glyph_of_nextChar {first : Bool} {s r : List Char} {c : Char}
    (h : nextChar first s = .ok (some c, r)) : ∃ g : Glyph, s = g.text ++ r ∧ g.char = c := by
  unfold nextChar at h
  split at h
  · cases h
  · cases h
  · rename_i t
    cases ht : readEscape t with
    | error f =>
      rw [ht] at h
      cases h
    | ok x =>
      rw [ht] at h
      cases h
      obtain ⟨u, rfl, hu⟩ := spells_of_readEscape ht
      exact ⟨⟨_, _, hu⟩, rfl, rfl⟩
  · rename_i d t hquote hbackslash
    split at h
    · cases h
    · rename_i hcontrol
      cases h
      exact ⟨⟨[c], c, Spells.plain hquote hbackslash (Nat.le_of_not_lt hcontrol)⟩, rfl, rfl⟩

theorem eq_quote_of_nextChar {first : Bool} {s r : List Char}
    (h : nextChar first s = .ok (none, r)) : s = '"' :: r := by
  unfold nextChar at h
  split at h
  · cases h
  · cases h
    rfl
  · rename_i t
    cases ht : readEscape t with
    | error f =>
      rw [ht] at h
      cases h
    | ok x =>
      rw [ht] at h
      cases h
  · split at h <;> cases h

theorem nextChar_glyph (first : Bool) (g : Glyph) (r : List Char) :
    nextChar first (g.text ++ r) = .ok (some g.char, r) := by
  obtain ⟨t, c, h⟩ := g
  cases h with
  | plain hquote hbackslash hcontrol =>
    show nextChar first (c :: r) = .ok (some c, r)
    unfold nextChar
    split
    · rename_i heq
      cases heq
    · rename_i heq
      cases heq
      exact absurd rfl hquote
    · rename_i heq
      cases heq
      exact absurd rfl hbackslash
    · rename_i heq
      cases heq
      exact if_neg (Nat.not_lt.2 hcontrol)
  | short hknown =>
    simp only [shortEscapes, List.mem_cons, Prod.mk.injEq, List.not_mem_nil, or_false] at hknown
    rcases hknown with ⟨rfl, rfl⟩ | ⟨rfl, rfl⟩ | ⟨rfl, rfl⟩ | ⟨rfl, rfl⟩ | ⟨rfl, rfl⟩ | ⟨rfl, rfl⟩ |
      ⟨rfl, rfl⟩ | ⟨rfl, rfl⟩ <;> rfl
  | code hhex hlow hhigh =>
    have hread := readHexFour_eq_ok_iff.2 (hexFour?_append hhex r)
    simp only [List.cons_append, List.nil_append, nextChar, readEscape, readUnicode, hread, hlow,
      hhigh]
    rfl
  | @pair h₁ h₂ h₃ h₄ l₁ l₂ l₃ l₄ m n hhex hhigh hhex' hlow =>
    have hread := readHexFour_eq_ok_iff.2
      (hexFour?_append hhex ('\\' :: 'u' :: l₁ :: l₂ :: l₃ :: l₄ :: r))
    have hread' := readHexFour_eq_ok_iff.2 (hexFour?_append hhex' r)
    simp only [List.cons_append, List.nil_append, nextChar, readEscape, readUnicode, hread,
      isLowSurrogate_of_high hhigh, hhigh, readLowSurrogate, hread', hlow, Bool.false_eq_true, if_false,
      if_true, Except.map]

theorem exists_glyphs_of_steps {first : Bool} {s r : List Char} {cs : List Char}
    (h : Steps nextChar first s cs r) :
    ∃ gs, s = inked gs ++ '"' :: r ∧ gs.map Glyph.char = cs := by
  induction h with
  | stop h => exact ⟨[], eq_quote_of_nextChar h, rfl⟩
  | more h rest ih =>
    obtain ⟨g, rfl, rfl⟩ := exists_glyph_of_nextChar h
    obtain ⟨gs, rfl, rfl⟩ := ih
    exact ⟨g :: gs, by rw [inked, inked, List.flatMap_cons, List.append_assoc], rfl⟩

theorem steps_inked (first : Bool) (gs : List Glyph) (r : List Char) :
    Steps nextChar first (inked gs ++ '"' :: r) (gs.map Glyph.char) r := by
  induction gs generalizing first with
  | nil => exact Steps.stop rfl
  | cons g gs ih =>
    rw [inked, List.flatMap_cons, List.append_assoc]
    exact Steps.more (nextChar_glyph first g _) (ih false)

theorem Spells.ne_nil {t : List Char} {c : Char} (h : Spells t c) : t ≠ [] := by
  cases h <;> exact List.cons_ne_nil _ _

theorem length_le_inked (gs : List Glyph) : gs.length ≤ (inked gs).length := by
  induction gs with
  | nil => exact Nat.le_refl 0
  | cons g gs ih =>
    have hg : 0 < g.text.length := List.length_pos_iff.2 g.spells.ne_nil
    rw [inked, List.flatMap_cons, List.length_append, List.length_cons]
    rw [inked] at ih
    omega

theorem readString_inked (gs : List Glyph) (r : List Char) :
    readString (inked gs ++ '"' :: r) = .ok (spelled gs, r) := by
  have hlen := length_le_inked gs
  rw [readString, (steps_inked true gs r).readParts]
  · rfl
  · rw [List.length_map, List.length_append]
    omega

theorem exists_glyphs_of_readString {s r : List Char} {k : String} (h : readString s = .ok (k, r)) :
    ∃ gs, s = inked gs ++ '"' :: r ∧ spelled gs = k := by
  unfold readString at h
  cases hp : readParts nextChar (s.length + 1) true s with
  | error f =>
    rw [hp] at h
    cases h
  | ok x =>
    rw [hp] at h
    cases h
    obtain ⟨gs, hs, hcs⟩ := exists_glyphs_of_steps (steps_of_readParts hp)
    exact ⟨gs, hs, congrArg String.ofList hcs⟩

end SourceDigest.Json
