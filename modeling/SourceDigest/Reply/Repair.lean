import SourceDigest.Text.Blank

namespace SourceDigest.Reply

open Text (isBlank)

inductive Lexical where
  | outside
  | inString
  | escaped
  deriving DecidableEq, Repr

def Lexical.step : Lexical → Char → Lexical
  | .outside, c => if c = '"' then .inString else .outside
  | .inString, c => if c = '\\' then .escaped else if c = '"' then .outside else .inString
  | .escaped, _ => .inString

def Lexical.run (l : Lexical) (s : List Char) : Lexical := s.foldl Lexical.step l

theorem Lexical.run_append (l : Lexical) (s t : List Char) :
    l.run (s ++ t) = (l.run s).run t :=
  List.foldl_append

def isOpening (c : Char) : Bool := c == '\x7b' || c == '['

def isClosingBracket (c : Char) : Bool := c == '\x7d' || c == ']'

def closerOf (c : Char) : Char := if c = '\x7b' then '\x7d' else ']'

def takeBalanced : Nat → Lexical → List Char → List Char
  | _, _, [] => []
  | depth, .outside, c :: s =>
    if isClosingBracket c then
      if depth ≤ 1 then [c] else c :: takeBalanced (depth - 1) .outside s
    else
      c :: takeBalanced (if isOpening c then depth + 1 else depth) (Lexical.step .outside c) s
  | depth, l, c :: s => c :: takeBalanced depth (l.step c) s

theorem takeBalanced_prefix (depth : Nat) (l : Lexical) (s : List Char) :
    takeBalanced depth l s <+: s := by
  induction s generalizing depth l with
  | nil => simp [takeBalanced]
  | cons c s ih =>
    cases l <;> simp only [takeBalanced]
    case outside =>
      split
      · split
        · exact ⟨s, rfl⟩
        · exact (List.cons_prefix_cons).2 ⟨rfl, ih _ _⟩
      · exact (List.cons_prefix_cons).2 ⟨rfl, ih _ _⟩
    all_goals exact (List.cons_prefix_cons).2 ⟨rfl, ih _ _⟩

def firstValue? (s : List Char) : Option (List Char) :=
  match s.dropWhile (!isOpening ·) with
  | [] => none
  | r => some (takeBalanced 0 .outside r)

theorem firstValue?_eq_none_iff {s : List Char} :
    firstValue? s = none ↔ ∀ c ∈ s, isOpening c = false := by
  unfold firstValue?
  induction s with
  | nil => simp
  | cons c s ih => cases h : isOpening c <;> simp_all

structure Scan where
  written : List Char
  closers : List Char
  lexical : Lexical
  beforeString : List Char
  deriving DecidableEq, Repr

def Scan.start : Scan := ⟨[], [], .outside, []⟩

def dropComma (written : List Char) : List Char :=
  match written.dropWhile isBlank with
  | ',' :: r => r
  | _ => written

namespace Scan

def step (s : Scan) (c : Char) : Scan :=
  match s.lexical with
  | .outside =>
    if c = '"' then { s with written := c :: s.written, lexical := .inString, beforeString := s.written }
    else if isOpening c then
      { s with written := c :: s.written, closers := closerOf c :: s.closers }
    else if isClosingBracket c then
      let closers := if s.closers.head? = some c then s.closers.tail else s.closers
      { s with written := c :: dropComma s.written, closers := closers }
    else { s with written := c :: s.written }
  | l => { s with written := c :: s.written, lexical := l.step c }

def run (s : Scan) (t : List Char) : Scan := t.foldl step s

theorem run_append (s : Scan) (t u : List Char) : s.run (t ++ u) = (s.run t).run u :=
  List.foldl_append

theorem lexical_step (s : Scan) (c : Char) : (s.step c).lexical = s.lexical.step c := by
  unfold step
  split
  · rename_i h
    rw [h]
    repeat' split
    all_goals simp_all [Lexical.step]
  · rfl

theorem lexical_run (s : Scan) (t : List Char) : (s.run t).lexical = s.lexical.run t := by
  induction t generalizing s with
  | nil => rfl
  | cons c t ih =>
    show ((s.step c).run t).lexical = (s.lexical.step c).run t
    rw [ih, lexical_step]

def closeString (s : Scan) : List Char :=
  match s.lexical with
  | .outside => s.written
  | .inString => '"' :: s.written
  | .escaped => '"' :: s.written.tail

def dropKey (beforeString written : List Char) : List Char :=
  if (written.dropWhile isBlank).head? = some ':' then dropComma beforeString else written

def closeBrackets (closers written : List Char) : List Char :=
  closers.foldl (fun w c => c :: dropComma w) written

def finish (s : Scan) : List Char :=
  (closeBrackets s.closers (dropKey s.beforeString (dropComma s.closeString))).reverse

end Scan

def repair (s : List Char) : List Char := (Scan.start.run s).finish

end SourceDigest.Reply
