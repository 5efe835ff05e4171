import SourceDigest.Text.Blank
import SourceDigest.Text.Word

namespace SourceDigest.Reply

open Text (isWord trimChars)

def ticks : List Char := ['\x60', '\x60', '\x60']

def isTagChar (c : Char) : Bool := isWord c || c == '-'

def isGap (c : Char) : Bool := c == ' ' || c == '\t'

def afterBreak? : List Char → Option (List Char)
  | '\n' :: r => some r
  | '\r' :: '\n' :: r => some r
  | _ => none

def afterOpening? (s : List Char) : Option (List Char) :=
  if ticks.isPrefixOf s then afterBreak? (((s.drop 3).dropWhile isTagChar).dropWhile isGap)
  else none

def isClosing (s : List Char) : Bool :=
  match afterBreak? s with
  | some r => ticks.isPrefixOf (r.dropWhile isGap)
  | none => false

def beforeClosing? : List Char → Option (List Char)
  | [] => none
  | c :: s => if isClosing (c :: s) then some [] else (beforeClosing? s).map (c :: ·)

def fenced? : List Char → Option (List Char)
  | [] => none
  | c :: s =>
    match (afterOpening? (c :: s)).bind beforeClosing? with
    | some inner => some inner
    | none => fenced? s

def body (s : List Char) : List Char :=
  match fenced? s with
  | some inner => trimChars inner
  | none =>
    if ticks.isPrefixOf s then
      match Text.splitOnce '\n' s with
      | some (_, r) => trimChars r
      | none => []
    else s

theorem isClosing_append_of_beforeClosing? {s inner : List Char} (h : beforeClosing? s = some inner) :
    ∃ r, s = inner ++ r ∧ isClosing r = true := by
  induction s generalizing inner with
  | nil => simp [beforeClosing?] at h
  | cons c s ih =>
    simp only [beforeClosing?] at h
    split at h
    · rename_i hc
      cases h
      exact ⟨c :: s, rfl, hc⟩
    · obtain ⟨t, ht, rfl⟩ := Option.map_eq_some_iff.1 h
      obtain ⟨r, rfl, hr⟩ := ih ht
      exact ⟨r, rfl, hr⟩

theorem fenced?_eq_none_of_not_ticks {s : List Char}
    (h : ∀ t : List Char, t <:+ s → ticks.isPrefixOf t = false) : fenced? s = none := by
  induction s with
  | nil => rfl
  | cons c s ih =>
    have hc := h (c :: s) List.suffix_rfl
    simp only [fenced?, afterOpening?, hc]
    exact ih fun t ht => h t (ht.trans (List.suffix_cons c s))

end SourceDigest.Reply
