import SourceDigest.Text.Canonical.Class
import SourceDigest.Text.Canonical.Composite
import SourceDigest.Text.Canonical.Equivalent

namespace SourceDigest.Text

def decomposeWithin : Nat → Char → List Char
  | 0, c => [c]
  | n + 1, c =>
    match equivalent? c with
    | some s => s
    | none =>
      match parts? c with
      | some (letter, mark) => decomposeWithin n letter ++ [mark]
      | none => [c]

def decomposeChar (c : Char) : List Char := if c.toNat < 0x80 then [c] else decomposeWithin 3 c

def insertMark (c : Char) : List Char → List Char
  | [] => [c]
  | d :: s =>
    if 0 < markClass d && markClass d < markClass c then d :: insertMark c s else c :: d :: s

def orderMarks (s : List Char) : List Char := s.foldr insertMark []

/-- Joins a letter with what stands behind it, given the marks that it could not be joined with, the
last one first. A mark is out of reach behind another one of its class or a higher one. -/
def joinFrom (letter : Char) : List Char → List Char → List Char
  | kept, [] => letter :: kept.reverse
  | kept, c :: s =>
    match (if kept.all fun d => markClass d < markClass c then composite? letter c else none) with
    | some made => joinFrom made kept s
    | none =>
      if markClass c = 0 then letter :: (kept.reverse ++ joinFrom c [] s)
      else joinFrom letter (c :: kept) s

def compose : List Char → List Char
  | [] => []
  | c :: s => if markClass c = 0 then joinFrom c [] s else c :: compose s

def canonical (s : List Char) : List Char := compose (orderMarks (s.flatMap decomposeChar))

theorem decomposeChar_of_ascii {c : Char} (h : c.toNat < 0x80) : decomposeChar c = [c] := by
  simp [decomposeChar, h]

theorem insertMark_perm (c : Char) (s : List Char) : (insertMark c s).Perm (c :: s) := by
  induction s with
  | nil => exact List.Perm.refl _
  | cons d s ih =>
    simp only [insertMark]
    split
    · exact (ih.cons d).trans (List.Perm.swap c d s)
    · exact List.Perm.refl _

theorem orderMarks_perm (s : List Char) : (orderMarks s).Perm s := by
  induction s with
  | nil => exact List.Perm.refl _
  | cons c s ih => exact (insertMark_perm c _).trans (ih.cons c)

end SourceDigest.Text
