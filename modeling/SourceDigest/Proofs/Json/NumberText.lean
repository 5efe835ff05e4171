import Mathlib.Data.List.Basic
import SourceDigest.Json.Number

namespace SourceDigest.Json

open Decimal (Binary binary64)

def isWordChar (c : Char) : Bool := c.isAlphanum || c == '+' || c == '-' || c == '.'

def Stops (r : List Char) : Prop :=
  ∀ c ∈ r.head?, c.isDigit = false ∧ c ≠ '.' ∧ c ≠ 'e' ∧ c ≠ 'E'

def TakesWord {α : Type} (read : List Char → Reading α) (s : List Char) (a : α) (r : List Char) :
    Prop :=
  ∃ u, s = u ++ r ∧ (∀ c ∈ u, isWordChar c = true) ∧ ∀ t, Stops t → read (u ++ t) = .ok (a, t)

theorem ne_of_test {p : Char → Bool} {c d : Char} (hc : p c = true) (hd : p d = false) : c ≠ d := by
  rintro rfl
  rw [hd] at hc
  cases hc

theorem stops_nil : Stops [] := by
  intro c h
  cases h

theorem Stops.not_digit {r : List Char} (h : Stops r) : startsWithDigit r = false := by
  cases r with
  | nil => rfl
  | cons c r => exact (h c rfl).1

theorem isWordChar_of_isDigit {c : Char} (h : c.isDigit = true) : isWordChar c = true := by
  simp [isWordChar, Char.isAlphanum, h]

theorem isDigit_of_mem_takeWhile {s : List Char} : ∀ c ∈ s.takeWhile Char.isDigit, c.isDigit = true := by
  intro c hc
  exact List.all_eq_true.1 List.all_takeWhile c hc

theorem dropWhile_digits_append {s t : List Char} (hs : ∀ c ∈ s, c.isDigit = true)
    (ht : startsWithDigit t = false) : (s ++ t).dropWhile Char.isDigit = t := by
  rw [List.dropWhile_append_of_pos hs]
  cases t with
  | nil => rfl
  | cons c t => exact List.dropWhile_cons_of_neg (Bool.eq_false_iff.1 ht)

theorem takeWhile_digits_append {s t : List Char} (hs : ∀ c ∈ s, c.isDigit = true)
    (ht : startsWithDigit t = false) : (s ++ t).takeWhile Char.isDigit = s := by
  rw [List.takeWhile_append_of_pos hs]
  cases t with
  | nil => exact List.append_nil s
  | cons c t =>
    have hc : ¬ c.isDigit = true := Bool.eq_false_iff.1 ht
    rw [List.takeWhile_cons_of_neg hc, List.append_nil]

theorem startsWithDigit_dropWhile (s : List Char) :
    startsWithDigit (s.dropWhile Char.isDigit) = false := by
  induction s with
  | nil => rfl
  | cons c s ih =>
    by_cases hc : c.isDigit = true
    · rw [List.dropWhile_cons_of_pos hc]
      exact ih
    · rw [List.dropWhile_cons_of_neg hc]
      exact Bool.eq_false_iff.2 hc

theorem gather_append (limit n : Nat) (s : List Char) :
    ∃ u, s = u ++ (gather limit n s).2.2 ∧ (∀ c ∈ u, c.isDigit = true) ∧
      ∀ t, t.head? = (gather limit n s).2.2.head? ∨ startsWithDigit t = false →
        gather limit n (u ++ t) = ((gather limit n s).1, (gather limit n s).2.1, t) := by
  induction s generalizing n with
  | nil =>
    refine ⟨[], rfl, by simp, ?_⟩
    intro t ht
    cases t with
    | nil => rfl
    | cons c t =>
      rcases ht with ht | ht
      · cases ht
      · have hc : c.isDigit = false := ht
        simp [gather, hc]
  | cons c s ih =>
    by_cases hc : (c.isDigit && n * 10 + digitValue c ≤ limit) = true
    · obtain ⟨u, hu, hd, ht⟩ := ih (n * 10 + digitValue c)
      refine ⟨c :: u, ?_, ?_, ?_⟩
      · simp only [gather, hc, if_true, List.cons_append]
        rw [← hu]
      · intro d hd'
        rcases List.mem_cons.1 hd' with rfl | hd'
        · exact (Bool.and_eq_true_iff.1 hc).1
        · exact hd d hd'
      · intro t htail
        simp only [gather, hc, if_true] at htail ⊢
        rw [List.cons_append, gather]
        simp only [hc, if_true, ht t htail]
    · refine ⟨[], ?_, by simp, ?_⟩
      · simp only [gather, hc, List.nil_append]
        rfl
      · intro t ht
        simp only [gather, hc] at ht ⊢
        cases t with
        | nil => rfl
        | cons d t =>
          rcases ht with ht | ht
          · obtain rfl : d = c := Option.some.inj ht
            simp only [List.nil_append, gather, hc]
            rfl
          · have hd : d.isDigit = false := ht
            simp [gather, hd]

theorem gather_exact {limit n v k : Nat} {s r : List Char} (h : gather limit n s = (v, k, r)) :
    ∃ u, s = u ++ r ∧ (∀ c ∈ u, c.isDigit = true) ∧
      ∀ t, startsWithDigit t = false → gather limit n (u ++ t) = (v, k, t) := by
  obtain ⟨u, hs, hu, ht⟩ := gather_append limit n s
  rw [h] at hs ht
  exact ⟨u, hs, hu, fun t hdigit => ht t (Or.inr hdigit)⟩

theorem gather_excess {limit n v k : Nat} {s r : List Char} (h : gather limit n s = (v, k, r))
    (hr : startsWithDigit r = true) :
    ∃ u, s = u ++ r.dropWhile Char.isDigit ∧ (∀ c ∈ u, c.isDigit = true) ∧
      ∀ t, startsWithDigit t = false →
        gather limit n (u ++ t) = (v, k, r.takeWhile Char.isDigit ++ t) ∧
          startsWithDigit (r.takeWhile Char.isDigit ++ t) = true := by
  obtain ⟨u, hs, hu, ht⟩ := gather_append limit n s
  rw [h] at hs ht
  cases r with
  | nil => cases hr
  | cons d r =>
    have hd : (d :: r).takeWhile Char.isDigit = d :: r.takeWhile Char.isDigit :=
      List.takeWhile_cons_of_pos hr
    refine ⟨u ++ (d :: r).takeWhile Char.isDigit, ?_, ?_, ?_⟩
    · rw [List.append_assoc, List.takeWhile_append_dropWhile]
      exact hs
    · intro c hc
      rcases List.mem_append.1 hc with hc | hc
      · exact hu c hc
      · exact isDigit_of_mem_takeWhile c hc
    · intro t _
      rw [List.append_assoc]
      refine ⟨ht _ (Or.inl ?_), ?_⟩
      · rw [hd]
        rfl
      · rw [hd]
        exact hr

theorem fraction_local {positive : Bool} {v : Nat} {e : Int} {s r : List Char} {n : Number}
    (h : fraction positive v e s = .ok (n, r)) :
    r = s ∧ ∀ t, fraction positive v e t = .ok (n, t) := by
  unfold fraction at h ⊢
  cases hx : scaleTen v e with
  | none =>
    rw [hx] at h
    cases h
  | some x =>
    rw [hx] at h
    cases h
    exact ⟨rfl, fun t => rfl⟩

theorem TakesWord.nil {α : Type} {read : List Char → Reading α} {s : List Char} {a : α}
    (h : ∀ t, Stops t → read t = .ok (a, t)) : TakesWord read s a s := by
  refine ⟨[], rfl, ?_, h⟩
  intro c hc
  cases hc

theorem TakesWord.cons {α : Type} {read next : List Char → Reading α} {c : Char} {s r : List Char}
    {a : α} (hc : isWordChar c = true) (heq : ∀ t, read (c :: t) = next t)
    (h : TakesWord next s a r) : TakesWord read (c :: s) a r := by
  obtain ⟨u, rfl, hu, ht⟩ := h
  refine ⟨c :: u, rfl, ?_, ?_⟩
  · intro d hd
    rcases List.mem_cons.1 hd with rfl | hd
    · exact hc
    · exact hu d hd
  · intro t hs
    rw [List.cons_append, heq]
    exact ht t hs

theorem TakesWord.digits {α : Type} {read next : List Char → Reading α} {u s r : List Char} {a : α}
    (hu : ∀ c ∈ u, c.isDigit = true) (hs : startsWithDigit s = false)
    (heq : ∀ t, startsWithDigit t = false → read (u ++ t) = next t)
    (h : TakesWord next s a r) : TakesWord read (u ++ s) a r := by
  obtain ⟨w, rfl, hw, ht⟩ := h
  refine ⟨u ++ w, (List.append_assoc u w r).symm, ?_, ?_⟩
  · intro c hc
    rcases List.mem_append.1 hc with hc | hc
    · exact isWordChar_of_isDigit (hu c hc)
    · exact hw c hc
  · intro t hstop
    have hdigit : startsWithDigit (w ++ t) = false := by
      cases w with
      | nil => exact hstop.not_digit
      | cons c w => exact hs
    rw [List.append_assoc, heq _ hdigit]
    exact ht t hstop

theorem fraction_word {positive : Bool} {v : Nat} {e : Int} {s r : List Char} {n : Number}
    (h : fraction positive v e s = .ok (n, r)) : TakesWord (fraction positive v e) s n r := by
  obtain ⟨rfl, ht⟩ := fraction_local h
  exact TakesWord.nil fun t _ => ht t

def readPower (positive : Bool) (significand : Nat) (start : Int) (up : Bool) (s : List Char) :
    Reading Number :=
  match s with
  | [] => faultBefore .endInValue []
  | c :: r =>
    if c.isDigit then
      let (e, _, r) := gather maxExponentDigits (digitValue c) r
      if startsWithDigit r then
        if significand ≠ 0 && up then faultAt .numberRange r
        else .ok (.float (.finite (!positive) 0 binary64.minExponent), r.dropWhile Char.isDigit)
      else fraction positive significand (if up then start + e else start - e) r
    else faultAt .badNumber s

theorem readExponent_bare (positive : Bool) (v : Nat) (e : Int) {c : Char} (s : List Char)
    (hp : c ≠ '+') (hm : c ≠ '-') :
    readExponent positive v e (c :: s) = readPower positive v e true (c :: s) := by
  unfold readExponent
  split
  rename_i heq
  split at heq
  · rename_i h
    cases h
    exact absurd rfl hp
  · rename_i h
    cases h
    exact absurd rfl hm
  · cases heq
    rfl

theorem readPower_word {positive up : Bool} {v : Nat} {e : Int} {s r : List Char} {n : Number}
    (h : readPower positive v e up s = .ok (n, r)) :
    TakesWord (readPower positive v e up) s n r := by
  cases s with
  | nil => cases h
  | cons c s =>
    by_cases hc : c.isDigit = true
    · rcases hg : gather maxExponentDigits (digitValue c) s with ⟨x, k, rest⟩
      have hread : ∀ t, readPower positive v e up (c :: t) =
          match gather maxExponentDigits (digitValue c) t with
          | (x, _, r) =>
            if startsWithDigit r then
              if v ≠ 0 && up then faultAt .numberRange r
              else
                .ok (.float (.finite (!positive) 0 binary64.minExponent), r.dropWhile Char.isDigit)
            else fraction positive v (if up then e + x else e - x) r := by
        intro t
        simp only [readPower, hc, if_true]
      rw [hread, hg] at h
      refine TakesWord.cons (isWordChar_of_isDigit hc) hread ?_
      by_cases hr : startsWithDigit rest = true
      · obtain ⟨u, rfl, hu, ht⟩ := gather_excess hg hr
        simp only [hr, if_true] at h
        split at h
        · cases h
        · rename_i hup
          cases h
          refine TakesWord.digits hu (startsWithDigit_dropWhile rest) ?_ (TakesWord.nil fun t _ => rfl)
          intro t hdigit
          simp only [(ht t hdigit).1, (ht t hdigit).2, if_true, hup]
          rw [dropWhile_digits_append isDigit_of_mem_takeWhile hdigit]
          rfl
      · have hr : startsWithDigit rest = false := Bool.eq_false_iff.2 hr
        obtain ⟨u, rfl, hu, ht⟩ := gather_exact hg
        simp only [hr] at h
        refine TakesWord.digits hu hr ?_ (fraction_word h)
        intro t hdigit
        simp only [ht t hdigit, hdigit]
        rfl
    · have hf : c.isDigit = false := Bool.eq_false_iff.2 hc
      simp only [readPower, hf] at h
      cases h

theorem readExponent_word {positive : Bool} {v : Nat} {e : Int} {s r : List Char} {n : Number}
    (h : readExponent positive v e s = .ok (n, r)) :
    TakesWord (readExponent positive v e) s n r := by
  cases s with
  | nil => cases h
  | cons c s =>
    by_cases hp : c = '+'
    · subst hp
      exact TakesWord.cons rfl (fun t => rfl) (readPower_word h)
    by_cases hm : c = '-'
    · subst hm
      exact TakesWord.cons rfl (fun t => rfl) (readPower_word h)
    · rw [readExponent_bare positive v e s hp hm] at h
      obtain ⟨u, hs, hu, ht⟩ := readPower_word h
      refine ⟨u, hs, hu, ?_⟩
      intro t hstop
      cases u with
      | nil => cases ht [] stops_nil
      | cons d u =>
        cases hs
        rw [← ht t hstop, List.cons_append, readExponent_bare positive v e (u ++ t) hp hm]

theorem readScale_bare {positive : Bool} {v : Nat} {e : Int} {s : List Char}
    (h : ∀ c ∈ s.head?, c ≠ 'e' ∧ c ≠ 'E') :
    readScale positive v e s = fraction positive v e s := by
  unfold readScale
  split
  · exact absurd rfl (h _ rfl).1
  · exact absurd rfl (h _ rfl).2
  · rfl

theorem readScale_word {positive : Bool} {v : Nat} {e : Int} {s r : List Char} {n : Number}
    (h : readScale positive v e s = .ok (n, r)) : TakesWord (readScale positive v e) s n r := by
  unfold readScale at h
  split at h
  · exact TakesWord.cons rfl (fun t => rfl) (readExponent_word h)
  · exact TakesWord.cons rfl (fun t => rfl) (readExponent_word h)
  · obtain ⟨rfl, ht⟩ := fraction_local h
    apply TakesWord.nil
    intro t hstop
    rw [readScale_bare fun c hc => (hstop c hc).2.2]
    exact ht t

theorem readPoint_word {positive : Bool} {v : Nat} {e : Int} {s r : List Char} {n : Number}
    (h : readPoint positive v e s = .ok (n, r)) : TakesWord (readPoint positive v e) s n r := by
  unfold readPoint at h
  rcases hg : gather maxNatural v s with ⟨x, k, rest⟩
  simp only [hg] at h
  by_cases hr : startsWithDigit rest = true
  · obtain ⟨u, rfl, hu, ht⟩ := gather_excess hg hr
    simp only [hr, if_true] at h
    refine TakesWord.digits hu (startsWithDigit_dropWhile rest) ?_ (readScale_word h)
    intro t hdigit
    simp only [readPoint, (ht t hdigit).1, (ht t hdigit).2, if_true]
    rw [dropWhile_digits_append isDigit_of_mem_takeWhile hdigit]
  · have hr : startsWithDigit rest = false := Bool.eq_false_iff.2 hr
    obtain ⟨u, rfl, hu, ht⟩ := gather_exact hg
    simp only [hr] at h
    by_cases hk : k = 0
    · simp only [hk, Bool.false_eq_true, if_false, if_true] at h
      split at h <;> cases h
    · simp only [hk, Bool.false_eq_true, if_false] at h
      refine TakesWord.digits hu hr ?_ (readScale_word h)
      intro t hdigit
      simp only [readPoint, ht t hdigit, hdigit, hk, if_false]
      rfl

theorem readTail_word {positive : Bool} {v : Nat} {s r : List Char} {n : Number}
    (h : readTail positive v s = .ok (n, r)) : TakesWord (readTail positive v) s n r := by
  unfold readTail at h
  split at h
  · exact TakesWord.cons rfl (fun t => rfl) (readPoint_word h)
  · exact TakesWord.cons rfl (fun t => rfl) (readExponent_word h)
  · exact TakesWord.cons rfl (fun t => rfl) (readExponent_word h)
  · cases h
    apply TakesWord.nil
    intro t hstop
    unfold readTail
    split
    · exact absurd rfl (hstop _ rfl).2.1
    · exact absurd rfl (hstop _ rfl).2.2.1
    · exact absurd rfl (hstop _ rfl).2.2.2
    · rfl

def readBeyond (positive : Bool) (v : Nat) (e : Int) (s : List Char) : Reading Number :=
  match s with
  | '.' :: t => readPoint positive v e t
  | t => readScale positive v e t

theorem readBeyond_bare {positive : Bool} {v : Nat} {e : Int} {s : List Char}
    (h : ∀ c ∈ s.head?, c ≠ '.') : readBeyond positive v e s = readScale positive v e s := by
  unfold readBeyond
  split
  · exact absurd rfl (h _ rfl)
  · rfl

theorem readBeyond_word {positive : Bool} {v : Nat} {e : Int} {s r : List Char} {n : Number}
    (h : readBeyond positive v e s = .ok (n, r)) : TakesWord (readBeyond positive v e) s n r := by
  by_cases hpoint : ∃ t, s = '.' :: t
  · obtain ⟨t, rfl⟩ := hpoint
    exact TakesWord.cons rfl (fun t => rfl) (readPoint_word h)
  · have hbare : ∀ c ∈ s.head?, c ≠ '.' := by
      rintro c hc rfl
      obtain ⟨t, ht⟩ := List.head?_eq_some_iff.1 hc
      exact hpoint ⟨t, ht⟩
    rw [readBeyond_bare hbare] at h
    obtain ⟨u, rfl, hu, ht⟩ := readScale_word h
    refine ⟨u, rfl, hu, ?_⟩
    intro t hstop
    rw [← ht t hstop]
    apply readBeyond_bare
    cases u with
    | nil =>
      intro c hc
      exact (hstop c hc).2.1
    | cons d u => exact hbare

theorem readNumber_word {positive : Bool} {s r : List Char} {n : Number}
    (h : readNumber positive s = .ok (n, r)) : TakesWord (readNumber positive) s n r := by
  unfold readNumber at h
  split at h
  · cases h
  · rename_i rest
    by_cases hr : startsWithDigit rest = true
    · simp only [hr, if_true] at h
      cases h
    · have hr : startsWithDigit rest = false := Bool.eq_false_iff.2 hr
      simp only [hr, Bool.false_eq_true, if_false] at h
      have hu : ∀ c ∈ ['0'], c.isDigit = true := List.all_eq_true.1 (by decide)
      refine TakesWord.digits hu hr ?_ (readTail_word h)
      intro t hdigit
      simp only [List.singleton_append, readNumber, hdigit, Bool.false_eq_true, if_false]
  · rename_i c s hzero
    by_cases hc : c.isDigit = true
    · have hread : ∀ t, readNumber positive (c :: t) =
          match gather maxNatural (digitValue c) t with
          | (v, _, r) =>
            if startsWithDigit r then
              readBeyond positive v (r.takeWhile Char.isDigit).length (r.dropWhile Char.isDigit)
            else readTail positive v r := by
        intro t
        unfold readNumber
        split
        · rename_i heq
          cases heq
        · rename_i heq
          cases heq
          exact (hzero rfl).elim
        · rename_i heq
          cases heq
          simp only [hc, if_true]
          rfl
      rcases hg : gather maxNatural (digitValue c) s with ⟨v, k, rest⟩
      have hd : ∀ u : List Char, (∀ d ∈ u, d.isDigit = true) → ∀ d ∈ c :: u, d.isDigit = true := by
        intro u hu d hd
        rcases List.mem_cons.1 hd with rfl | hd
        · exact hc
        · exact hu d hd
      simp only [hc, if_true, hg] at h
      by_cases hr : startsWithDigit rest = true
      · obtain ⟨u, rfl, hu, ht⟩ := gather_excess hg hr
        simp only [hr, if_true] at h
        refine TakesWord.digits (hd u hu) (startsWithDigit_dropWhile rest) ?_ (readBeyond_word h)
        intro t hdigit
        rw [List.cons_append, hread, (ht t hdigit).1]
        simp only [(ht t hdigit).2, if_true]
        rw [dropWhile_digits_append isDigit_of_mem_takeWhile hdigit,
          takeWhile_digits_append isDigit_of_mem_takeWhile hdigit]
      · have hr : startsWithDigit rest = false := Bool.eq_false_iff.2 hr
        obtain ⟨u, rfl, hu, ht⟩ := gather_exact hg
        simp only [hr, Bool.false_eq_true, if_false] at h
        refine TakesWord.digits (hd u hu) hr ?_ (readTail_word h)
        intro t hdigit
        rw [List.cons_append, hread, ht t hdigit]
        simp only [hdigit, Bool.false_eq_true, if_false]
    · have hf : c.isDigit = false := Bool.eq_false_iff.2 hc
      simp only [hf, Bool.false_eq_true, if_false] at h
      cases h

end SourceDigest.Json
