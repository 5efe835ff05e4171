import Mathlib.Data.List.Chain
import SourceDigest.Json.Printer
import SourceDigest.Proofs.Text.Splitting

namespace SourceDigest

namespace Decimal

def isNumeral (c : Char) : Bool :=
  c.isDigit || ['.', 'e', '+', '-', 'i', 'n', 'f', 'N', 'a'].contains c

theorem all_toDigits (n : Nat) : (Nat.toDigits 10 n).all isNumeral = true := by
  rw [List.all_eq_true]
  intro c hc
  rw [isNumeral, Nat.isDigit_of_mem_toDigits (by decide) (Nat.le_refl 10) hc, Bool.true_or]

theorem all_zeros (n : Nat) : (zeros n).all isNumeral = true := by
  rw [List.all_eq_true]
  intro c hc
  rw [(List.mem_replicate.1 hc).2]
  rfl

theorem all_of_subset {s t : List Char} (ht : t.all isNumeral = true) (h : s ⊆ t) :
    s.all isNumeral = true :=
  List.all_eq_true.2 fun c hc => List.all_eq_true.1 ht c (h hc)

theorem all_render (l : Layout) (d : Digits) : (l.render d).all isNumeral = true := by
  have hdigits := all_toDigits d.digits
  have hpoint : isNumeral '.' = true := rfl
  have htake (n : Nat) := all_of_subset hdigits (List.take_subset n _)
  have hdrop (n : Nat) := all_of_subset hdigits (List.drop_subset n _)
  simp only [Layout.render]
  split
  · split <;> rfl
  split
  · split
    · rw [List.all_append, List.all_append, hdigits, all_zeros]
      split <;> rfl
    split
    · rw [List.all_append, List.all_cons, htake, hpoint, hdrop]
      rfl
    · rw [List.all_append, List.all_cons, List.all_cons, hpoint, all_zeros, hdigits]
      rfl
  · have hsign (e : Int) : isNumeral (if e < 0 then '-' else '+') = true := by
      split <;> rfl
    rw [List.all_append, List.all_cons, List.all_cons, all_toDigits, hsign]
    generalize Nat.toDigits 10 d.digits = ds at hdigits
    cases ds with
    | nil => rfl
    | cons c rest =>
      rw [List.all_cons, Bool.and_eq_true] at hdigits
      cases rest with
      | nil =>
        rw [List.all_cons, hdigits.1]
        rfl
      | cons c' rest =>
        rw [List.all_cons, List.all_cons, hdigits.1, hdigits.2, hpoint]
        rfl

theorem all_text (f : Format) (l : Layout) (x : Binary) :
    (x.text f l).toList.all isNumeral = true := by
  cases x with
  | finite s m e =>
    rw [Binary.text, String.toList_ofList, List.all_append, all_render]
    cases s <;> rfl
  | infinite s =>
    rw [Binary.text]
    cases s <;> decide
  | nan =>
    rw [Binary.text]
    decide

end Decimal

namespace Json

theorem Number.all_text (n : Number) : n.text.toList.all Decimal.isNumeral = true := by
  have hnatural (m : Nat) : (toString m).toList.all Decimal.isNumeral = true := by
    rw [show toString m = m.repr from rfl, Nat.repr_eq_ofList_toDigits, String.toList_ofList]
    exact Decimal.all_toDigits m
  cases n with
  | natural m => exact hnatural m
  | negative m =>
    rw [Number.text, String.toList_append, List.all_append, hnatural]
    rfl
  | float x => exact Decimal.all_text _ _ x

theorem Number.not_mem_text {c : Char} (hc : Decimal.isNumeral c = false) (n : Number) :
    c ∉ n.text.toList := by
  intro hmem
  rw [List.all_eq_true.1 n.all_text c hmem] at hc
  cases hc

section OneLine

theorem newline_ne_hexDigit (n : Nat) : '\n' ≠ hexDigit n := by
  have hdigit : ∀ d < 16, '\n' ≠ Nat.digitChar d := by decide
  exact hdigit (n % 16) (Nat.mod_lt n (by decide))

theorem newline_not_mem_escapeChar (c : Char) : '\n' ∉ escapeChar c := by
  unfold escapeChar
  split_ifs with hquote hslash hline hreturn htab hback hfeed hcontrol
  all_goals simp [newline_ne_hexDigit, Ne.symm, *]

theorem newline_not_mem_stringChars (s : String) : '\n' ∉ stringChars s := by
  simp [stringChars, newline_not_mem_escapeChar]

namespace Value

mutual

theorem newline_not_mem_compactChars : ∀ v : Value, '\n' ∉ v.compactChars
  | .null => by decide
  | .bool b => by cases b <;> decide
  | .number n => n.not_mem_text rfl
  | .string s => newline_not_mem_stringChars s
  | .array [] => by decide
  | .array (v :: vs) => by
    simp [compactChars, newline_not_mem_compactChars v, newline_not_mem_compactItems vs]
  | .object [] => by decide
  | .object ((k, v) :: ms) => by
    simp [compactChars, newline_not_mem_stringChars, newline_not_mem_compactChars v,
      newline_not_mem_compactMembers ms]

theorem newline_not_mem_compactItems : ∀ vs : List Value, '\n' ∉ compactItems vs
  | [] => by decide
  | v :: vs => by
    simp [compactItems, newline_not_mem_compactChars v, newline_not_mem_compactItems vs]

theorem newline_not_mem_compactMembers : ∀ ms : List (String × Value), '\n' ∉ compactMembers ms
  | [] => by decide
  | (k, v) :: ms => by
    simp [compactMembers, newline_not_mem_stringChars, newline_not_mem_compactChars v,
      newline_not_mem_compactMembers ms]

end

end Value

end OneLine

section ManyLines

structure Unopened (x : Char) (s : List Char) : Prop where
  head : s.head? ≠ some x
  chain : s.IsChain fun a b => a = '\n' → b ≠ x

variable {x : Char} {s t : List Char}

theorem Unopened.append (hs : Unopened x s) (ht : Unopened x t) : Unopened x (s ++ t) where
  head := by
    cases s with
    | nil => exact ht.head
    | cons c s => exact hs.head
  chain := by
    refine List.isChain_append.2 ⟨hs.chain, ht.chain, ?_⟩
    rintro a - b hb - rfl
    exact ht.head hb

theorem Unopened.cons {c : Char} (hc : c ≠ x) (ht : Unopened x t) : Unopened x (c :: t) where
  head := by simpa using hc
  chain := by
    refine List.isChain_cons.2 ⟨?_, ht.chain⟩
    rintro b hb - rfl
    exact ht.head hb

theorem Unopened.of_not_mem (h : x ∉ s) : Unopened x s := by
  induction s with
  | nil => exact ⟨by simp, .nil⟩
  | cons c s ih =>
    rw [List.mem_cons, not_or] at h
    exact .cons (Ne.symm h.1) (ih h.2)

theorem Unopened.of_oneLine (hhead : s.head? ≠ some x) (h : '\n' ∉ s) : Unopened x s := by
  refine ⟨hhead, ?_⟩
  clear hhead
  induction s with
  | nil => exact .nil
  | cons c s ih =>
    rw [List.mem_cons, not_or] at h
    refine List.isChain_cons.2 ⟨?_, ih h.2⟩
    rintro b - rfl
    exact absurd rfl h.1

theorem Unopened.head?_ne {w : List Char} (h : Unopened x s) (hw : w ∈ Text.splitOn '\n' s) :
    w.head? ≠ some x := by
  obtain ⟨a, b, rfl, ha, -⟩ := Text.exists_around_of_mem_splitOn hw
  intro hhead
  obtain ⟨w, rfl⟩ := List.head?_eq_some_iff.1 hhead
  rcases ha with rfl | ⟨u, rfl⟩
  · exact h.head rfl
  · have hchain := h.chain
    rw [List.append_assoc, List.append_assoc, List.singleton_append, List.cons_append] at hchain
    exact (List.isChain_append_cons_cons.1 hchain).2.1 rfl rfl

def isBare (c : Char) : Bool :=
  Decimal.isNumeral c || ['"', '[', ']', '\x7b', '\x7d', ',', ':', '\n', ' '].contains c
    || ['t', 'r', 'u', 'e', 'f', 'a', 'l', 's', 'n'].contains c

theorem ne_of_isBare {c : Char} (hc : isBare c = true) (hx : isBare x = false) : c ≠ x := by
  rintro rfl
  rw [hc] at hx
  cases hx

theorem Unopened.of_isBare (hx : isBare x = false) (hs : s.all isBare = true) : Unopened x s :=
  .of_not_mem fun hmem => ne_of_isBare (List.all_eq_true.1 hs x hmem) hx rfl

theorem unopened_stringChars (hx : isBare x = false) (s : String) : Unopened x (stringChars s) := by
  apply Unopened.of_oneLine _ (newline_not_mem_stringChars s)
  simpa [stringChars] using ne_of_isBare rfl hx

theorem unopened_newline (hx : isBare x = false) (depth : Nat) :
    Unopened x (Value.newline depth) := by
  apply Unopened.of_isBare hx
  rw [Value.newline, List.all_cons, List.all_replicate]
  simp [isBare]

theorem Unopened.item (hx : isBare x = false) (depth : Nat) (ht : Unopened x t) :
    Unopened x (Value.newline depth ++ t) :=
  (unopened_newline hx depth).append ht

theorem Unopened.member (hx : isBare x = false) (depth : Nat) (k : String) (ht : Unopened x t) :
    Unopened x (Value.newline depth ++ stringChars k ++ ':' :: ' ' :: t) :=
  (Unopened.item hx depth (unopened_stringChars hx k)).append
    (.cons (ne_of_isBare rfl hx) (.cons (ne_of_isBare rfl hx) ht))

namespace Value

theorem unopened_compactChars (hx : isBare x = false) : ∀ v : Value, Unopened x v.compactChars
  | .null => .of_isBare hx (by rw [compactChars]; decide)
  | .bool b => .of_isBare hx (by rw [compactChars]; cases b <;> decide)
  | .number n => by
    apply Unopened.of_isBare hx
    rw [compactChars, List.all_eq_true]
    intro c hc
    rw [isBare, List.all_eq_true.1 n.all_text c hc]
    rfl
  | .string s => unopened_stringChars hx s
  | .array [] => .of_isBare hx (by rw [compactChars]; decide)
  | .array (v :: vs) =>
    .of_oneLine (by simpa [compactChars] using ne_of_isBare rfl hx)
      (newline_not_mem_compactChars (.array (v :: vs)))
  | .object [] => .of_isBare hx (by rw [compactChars]; decide)
  | .object (m :: ms) =>
    .of_oneLine (by simpa [compactChars] using ne_of_isBare rfl hx)
      (newline_not_mem_compactChars (.object (m :: ms)))

mutual

theorem unopened_prettyChars (hx : isBare x = false) (depth : Nat) :
    ∀ v : Value, Unopened x (v.prettyChars depth)
  | .null => unopened_compactChars hx .null
  | .bool b => unopened_compactChars hx (.bool b)
  | .number n => unopened_compactChars hx (.number n)
  | .string s => unopened_stringChars hx s
  | .array [] => unopened_compactChars hx (.array [])
  | .array (v :: vs) =>
    .cons (ne_of_isBare rfl hx)
      ((Unopened.item hx (depth + 1) (unopened_prettyChars hx (depth + 1) v)).append
        (unopened_prettyItems hx depth vs))
  | .object [] => unopened_compactChars hx (.object [])
  | .object ((k, v) :: ms) =>
    .cons (ne_of_isBare rfl hx)
      ((Unopened.member hx (depth + 1) k (unopened_prettyChars hx (depth + 1) v)).append
        (unopened_prettyMembers hx depth ms))

theorem unopened_prettyItems (hx : isBare x = false) (depth : Nat) :
    ∀ vs : List Value, Unopened x (prettyItems depth vs)
  | [] => .item hx depth (.of_isBare hx rfl)
  | v :: vs =>
    .cons (ne_of_isBare rfl hx)
      ((Unopened.item hx (depth + 1) (unopened_prettyChars hx (depth + 1) v)).append
        (unopened_prettyItems hx depth vs))

theorem unopened_prettyMembers (hx : isBare x = false) (depth : Nat) :
    ∀ ms : List (String × Value), Unopened x (prettyMembers depth ms)
  | [] => .item hx depth (.of_isBare hx rfl)
  | (k, v) :: ms =>
    .cons (ne_of_isBare rfl hx)
      ((Unopened.member hx (depth + 1) k (unopened_prettyChars hx (depth + 1) v)).append
        (unopened_prettyMembers hx depth ms))

end

end Value

end ManyLines

end Json

end SourceDigest
