import SourceDigest.Proofs.Text.Splitting
import SourceDigest.Scan.Glob

namespace SourceDigest.Scan

namespace Glob

variable {rest : List Char → Bool} {g h : List Glob} {s w : List Char}

theorem afterStretch_iff :
    afterStretch rest s = true ↔ ∃ t, '/' ∉ t ∧ ∃ u, s = t ++ u ∧ rest u = true := by
  induction s with
  | nil =>
    refine ⟨fun h => ⟨[], List.not_mem_nil, [], rfl, h⟩, ?_⟩
    rintro ⟨t, -, u, hs, hu⟩
    obtain ⟨-, rfl⟩ := List.append_eq_nil_iff.1 hs.symm
    exact hu
  | cons c s ih =>
    simp only [afterStretch, Bool.or_eq_true, Bool.and_eq_true, bne_iff_ne, ih]
    constructor
    · rintro (h | ⟨hc, t, ht, u, rfl, hu⟩)
      · exact ⟨[], List.not_mem_nil, c :: s, rfl, h⟩
      · exact ⟨c :: t, by simp [hc.symm, ht], u, rfl, hu⟩
    · rintro ⟨t, ht, u, hs, hu⟩
      cases t with
      | nil => exact Or.inl (by rwa [hs])
      | cons d t =>
        obtain ⟨rfl, rfl⟩ := List.cons.inj hs
        rw [List.mem_cons, not_or] at ht
        exact Or.inr ⟨Ne.symm ht.1, t, ht.2, u, rfl, hu⟩

theorem afterSlash_iff : afterSlash rest s = true ↔ ∃ t u, s = t ++ '/' :: u ∧ rest u = true := by
  induction s with
  | nil => simp [afterSlash]
  | cons c s ih =>
    simp only [afterSlash, Bool.or_eq_true, Bool.and_eq_true, beq_iff_eq, ih]
    constructor
    · rintro (⟨rfl, h⟩ | ⟨t, u, rfl, hu⟩)
      · exact ⟨[], s, rfl, h⟩
      · exact ⟨c :: t, u, rfl, hu⟩
    · rintro ⟨t, u, hs, hu⟩
      cases t with
      | nil =>
        obtain ⟨rfl, rfl⟩ := List.cons.inj hs
        exact Or.inl ⟨rfl, hu⟩
      | cons d t => exact Or.inr ⟨t, u, (List.cons.inj hs).2, hu⟩

theorem afterWord_iff : afterWord rest w s = true ↔ ∃ u, s = w ++ u ∧ rest u = true := by
  rw [afterWord, Bool.and_eq_true, List.isPrefixOf_iff_prefix]
  constructor
  · rintro ⟨⟨u, rfl⟩, h⟩
    rw [List.drop_left] at h
    exact ⟨u, rfl, h⟩
  · rintro ⟨u, rfl, h⟩
    rw [List.drop_left]
    exact ⟨List.prefix_append w u, h⟩

def Stands : Glob → List Char → Prop
  | .char c, t => t = [c]
  | .star, t => '/' ∉ t
  | .leadingDirectories, t => t = [] ∨ ∃ u, t = u ++ ['/']
  | .innerDirectories, t => t = ['/'] ∨ ∃ u, t = '/' :: (u ++ ['/'])
  | .oneOf words, t => t ∈ words

def Matches : List Glob → List Char → Prop
  | [], s => s = []
  | p :: g, s => ∃ t, p.Stands t ∧ ∃ u, s = t ++ u ∧ Matches g u

theorem matches_leading :
    (∃ t, leadingDirectories.Stands t ∧ ∃ u, s = t ++ u ∧ Matches g u) ↔
      Matches g s ∨ ∃ t u, s = t ++ '/' :: u ∧ Matches g u := by
  constructor
  · rintro ⟨_, rfl | ⟨t, rfl⟩, u, rfl, hu⟩
    · exact Or.inl hu
    · exact Or.inr ⟨t, u, by simp, hu⟩
  · rintro (h | ⟨t, u, rfl, hu⟩)
    · exact ⟨[], Or.inl rfl, s, rfl, h⟩
    · exact ⟨t ++ ['/'], Or.inr ⟨t, rfl⟩, u, by simp, hu⟩

theorem matches_inner :
    (∃ t, innerDirectories.Stands t ∧ ∃ u, s = t ++ u ∧ Matches g u) ↔
      s.head? = some '/' ∧ ∃ t u, s = t ++ '/' :: u ∧ Matches g u := by
  constructor
  · rintro ⟨_, rfl | ⟨t, rfl⟩, u, rfl, hu⟩
    · exact ⟨rfl, [], u, rfl, hu⟩
    · exact ⟨rfl, '/' :: t, u, by simp, hu⟩
  · rintro ⟨hhead, t, u, rfl, hu⟩
    cases t with
    | nil => exact ⟨['/'], Or.inl rfl, u, rfl, hu⟩
    | cons c t =>
      obtain rfl : c = '/' := Option.some.inj hhead
      exact ⟨'/' :: (t ++ ['/']), Or.inr ⟨t, rfl⟩, u, by simp, hu⟩

theorem matchPieces_iff : matchPieces g s = true ↔ Matches g s := by
  induction g generalizing s with
  | nil => simp [matchPieces, Matches]
  | cons p g ih =>
    cases p with
    | char c => simp [matchPieces, afterWord_iff, ih, Matches, Stands]
    | star => simp only [matchPieces, afterStretch_iff, ih, Matches, Stands]
    | leadingDirectories =>
      rw [matchPieces, Bool.or_eq_true, afterSlash_iff, Matches, matches_leading]
      simp only [ih]
    | innerDirectories =>
      rw [matchPieces, Bool.and_eq_true, beq_iff_eq, afterSlash_iff, Matches, matches_inner]
      simp only [ih]
    | oneOf words => simp [matchPieces, afterWord_iff, ih, Matches, Stands]

def literal (w : List Char) : List Glob := w.map .char

theorem matches_literal_append :
    Matches (literal w ++ g) s ↔ ∃ u, s = w ++ u ∧ Matches g u := by
  induction w generalizing s with
  | nil => simp [literal]
  | cons c w ih =>
    show Matches (.char c :: (literal w ++ g)) s ↔ _
    simp only [Matches, Stands, exists_eq_left, ih]
    constructor
    · rintro ⟨_, rfl, u, rfl, hu⟩
      exact ⟨u, rfl, hu⟩
    · rintro ⟨u, rfl, hu⟩
      exact ⟨w ++ u, rfl, u, rfl, hu⟩

theorem matches_literal : Matches (literal w) s ↔ s = w := by
  have h := matches_literal_append (w := w) (g := []) (s := s)
  simpa [Matches] using h

inductive Reads : List Char → List Glob → Prop
  | nil : Reads [] []
  | inner {s : List Char} {g : List Glob} (rest : Reads s g) :
    Reads ('/' :: '*' :: '*' :: '/' :: s) (.innerDirectories :: g)
  | star {s : List Char} {g : List Glob} (rest : Reads s g) : Reads ('*' :: s) (.star :: g)
  | braces {words : List (List Char)} {s : List Char} {g : List Glob} (nonempty : words ≠ [])
    (closed : ∀ w ∈ words, ',' ∉ w ∧ '\x7d' ∉ w) (rest : Reads s g) :
    Reads ('\x7b' :: (Text.joinWith [','] words ++ '\x7d' :: s)) (.oneOf words :: g)
  | char {c : Char} {s : List Char} {g : List Glob} (plain : c ∉ ['/', '*', '\x7b'])
    (rest : Reads s g) : Reads (c :: s) (.char c :: g)

theorem splitBraces_joinWith {words : List (List Char)} (hne : words ≠ [])
    (h : ∀ w ∈ words, ',' ∉ w ∧ '\x7d' ∉ w) (s : List Char) :
    splitBraces (Text.joinWith [','] words ++ '\x7d' :: s) = (words, s) := by
  have hopen : ∀ c ∈ Text.joinWith [','] words, (c != '\x7d') = true := by
    intro c hc
    rw [bne_iff_ne]
    rintro rfl
    rcases Text.mem_or_of_mem_joinWith hc with hcomma | ⟨w, hw, hbrace⟩
    · simp at hcomma
    · exact (h w hw).2 hbrace
  rw [splitBraces, List.takeWhile_append_of_pos hopen, List.dropWhile_append_of_pos hopen]
  simp [Text.splitOn_joinWith hne fun w hw => (h w hw).1]

theorem Reads.ofChars {n : Nat} (hg : Reads s g) (hn : s.length ≤ n) : ofChars n s = g := by
  induction hg generalizing n with
  | nil => cases n <;> rfl
  | inner _ ih =>
    cases n with
    | zero => simp at hn
    | succ n =>
      simp only [List.length_cons] at hn
      rw [Glob.ofChars, ih (by omega)]
  | star _ ih =>
    cases n with
    | zero => simp at hn
    | succ n => rw [Glob.ofChars, ih (Nat.le_of_succ_le_succ hn)]
  | braces nonempty closed _ ih =>
    cases n with
    | zero => simp at hn
    | succ n =>
      simp only [List.length_cons, List.length_append] at hn
      simp only [Glob.ofChars, splitBraces_joinWith nonempty closed]
      rw [ih (by omega)]
  | char plain _ ih =>
    cases n with
    | zero => simp at hn
    | succ n =>
      simp only [List.mem_cons, not_or] at plain
      rw [Glob.ofChars, ih (Nat.le_of_succ_le_succ hn)] <;> simp_all

theorem Reads.literal_append {w : List Char} (hw : ∀ c ∈ w, c ∉ ['/', '*', '\x7b'])
    (hg : Reads s g) : Reads (w ++ s) (literal w ++ g) := by
  induction w with
  | nil => exact hg
  | cons c w ih =>
    exact .char (hw c List.mem_cons_self) (ih fun d hd => hw d (List.mem_cons_of_mem c hd))

theorem Reads.ofPattern {pattern : String} (hg : Reads pattern.toList g)
    (hstart : ¬ ['*', '*', '/'] <+: pattern.toList) : ofPattern pattern = g := by
  unfold Glob.ofPattern
  split
  · rename_i s hs
    exact absurd ⟨s, hs.symm⟩ hstart
  · exact hg.ofChars (Nat.le_refl _)

theorem Reads.ofPattern_leading {pattern : String} (hg : Reads s g)
    (hpattern : pattern.toList = '*' :: '*' :: '/' :: s) :
    Glob.ofPattern pattern = .leadingDirectories :: g := by
  unfold Glob.ofPattern
  rw [hpattern]
  simp only [hg.ofChars (Nat.le_refl _)]

def Fits : List (List Char) → List Char → Prop
  | [], s => s = []
  | [w], s => s = w
  | w :: v :: ws, s => ∃ t u, s = w ++ (t ++ u) ∧ Fits (v :: ws) u

theorem Fits.subset {ws : List (List Char)} (h : Fits ws s) (hw : w ∈ ws) : w ⊆ s := by
  induction ws generalizing s with
  | nil => cases hw
  | cons v ws ih =>
    cases ws with
    | nil =>
      obtain rfl := List.mem_singleton.1 hw
      obtain rfl : s = w := h
      exact List.Subset.refl s
    | cons u ws =>
      obtain ⟨t, r, rfl, hr⟩ := h
      rcases List.mem_cons.1 hw with rfl | hw
      · exact List.subset_append_left _ _
      · exact List.Subset.trans (ih hr hw)
          (List.subset_append_of_subset_right _ (List.subset_append_right t r))

def starred : List (List Char) → List Glob
  | [] => []
  | [w] => literal w
  | w :: v :: ws => literal w ++ .star :: starred (v :: ws)

theorem reads_starred (hslash : '/' ∉ s) (hbrace : '\x7b' ∉ s) :
    Reads s (starred (Text.splitOn '*' s)) := by
  induction s with
  | nil => exact .nil
  | cons c s ih =>
    simp only [List.mem_cons, not_or] at hslash hbrace
    have hrest := ih hslash.2 hbrace.2
    obtain ⟨w, ws, hw⟩ := List.exists_cons_of_ne_nil (Text.splitOn_ne_nil '*' s)
    rw [hw] at hrest
    by_cases hc : c = '*'
    · subst hc
      rw [Text.splitOn, if_pos rfl, hw]
      exact .star hrest
    · have hplain : c ∉ ['/', '*', '\x7b'] := by
        simp [Ne.symm hslash.1, hc, Ne.symm hbrace.1]
      rw [Text.splitOn, if_neg hc, hw]
      cases ws <;> exact .char hplain hrest

theorem matches_starred {ws : List (List Char)} (hs : '/' ∉ s) :
    Matches (starred ws) s ↔ Fits ws s := by
  induction ws generalizing s with
  | nil => rfl
  | cons w ws ih =>
    cases ws with
    | nil => exact matches_literal
    | cons v ws =>
      simp only [starred, matches_literal_append, Matches, Stands, Fits]
      constructor
      · rintro ⟨_, rfl, t, -, u, rfl, hu⟩
        simp only [List.mem_append, not_or] at hs
        exact ⟨t, u, rfl, (ih hs.2.2).1 hu⟩
      · rintro ⟨t, u, rfl, hu⟩
        simp only [List.mem_append, not_or] at hs
        exact ⟨t ++ u, rfl, t, hs.2.1, u, rfl, (ih hs.2.2).2 hu⟩

section Shapes

variable {v : List Char}

theorem fits_singleton : Fits [w] s ↔ s = w := Iff.rfl

theorem fits_start : Fits [w, []] s ↔ w <+: s := by
  simp [Fits, List.prefix_iff_exists_append_eq, eq_comm]

theorem fits_between : Fits [w, v] s ↔ ∃ t, s = w ++ t ++ v := by
  simp [Fits]

theorem fits_inside : Fits [[], w, []] s ↔ w <:+: s := by
  simp only [Fits, List.nil_append]
  constructor
  · rintro ⟨t, _, rfl, u, _, rfl, rfl⟩
    exact ⟨t, u, by simp⟩
  · rintro ⟨t, u, rfl⟩
    exact ⟨t, w ++ u, by simp, u, [], by simp, rfl⟩

end Shapes

end Glob

theorem globMatches_iff_fits {pattern : String} {s : List Char} (hslash : '/' ∉ pattern.toList)
    (hbrace : '\x7b' ∉ pattern.toList) (hs : '/' ∉ s) :
    globMatches pattern s = true ↔ Glob.Fits (Text.splitOn '*' pattern.toList) s := by
  have hstart : ¬ ['*', '*', '/'] <+: pattern.toList :=
    fun h => hslash (h.subset (by simp))
  rw [globMatches, (Glob.reads_starred hslash hbrace).ofPattern hstart, Glob.matchPieces_iff,
    Glob.matches_starred hs]

end SourceDigest.Scan
