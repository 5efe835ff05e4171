import SourceDigest.Domain.Direction
import SourceDigest.Domain.Folding
import SourceDigest.Domain.Joining
import SourceDigest.Text.Punycode

namespace SourceDigest.Domain

open Text (splitOn joinWith)
open Text.Punycode (isAscii)

def codedMark : List Char := ['x', 'n', '-', '-']

def maxRead : Nat := 2000

def maxWritten : Nat := 1000

def decodeLabel? (label : List Char) : Option (List Char) :=
  if codedMark.isPrefixOf label then
    let coded := label.drop codedMark.length
    if coded.length ≤ maxRead then
      (Text.Punycode.decode coded).filter fun s => !s.all isAscii && fold s == s
    else none
  else some label

def isValidLabel (label : List Char) : Bool :=
  label.all isPermitted && !label.head?.any Text.isMark && joinersAllowed [] label
    && (label.all isAscii || label.length ≤ maxWritten)

def encodeLabel (label : List Char) : List Char :=
  if label.all isAscii then label else codedMark ++ Text.Punycode.encode label

def labels? (s : List Char) : Option (List (List Char)) :=
  ((splitOn '.' (fold s)).mapM decodeLabel?).filter fun labels =>
    labels.all isValidLabel
      && (labels.all isOrdered || !labels.flatten.any fun c => (Direction.ofChar c).turns)

def toAscii? (s : List Char) : Option (List Char) :=
  (labels? s).map fun labels => joinWith ['.'] (labels.map encodeLabel)

theorem encodeLabel_isAscii {label : List Char} {c : Char} (h : c ∈ encodeLabel label) :
    isAscii c = true := by
  unfold encodeLabel at h
  split at h
  · rename_i ha
    exact List.all_eq_true.1 ha c h
  · rcases List.mem_append.1 h with hm | he
    · exact List.all_eq_true.1 (by decide : codedMark.all isAscii = true) c hm
    · exact Text.Punycode.encode_isAscii he

end SourceDigest.Domain
