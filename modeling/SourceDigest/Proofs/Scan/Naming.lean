import SourceDigest.Proofs.Scan.Glob
import SourceDigest.Proofs.Text.Lowering
import SourceDigest.Proofs.Text.Utf8
import SourceDigest.Scan.Filter

namespace SourceDigest.Scan

open Text (lowerChars splitOn splitLast)

variable {s : List Char}

def Resembles (pattern : String) (s : List Char) : Prop :=
  Glob.Fits (splitOn '*' pattern.toList) s

def testPatterns : List String := ["*.test.*", "*.spec.*", "test_*.py"]

def lastMarks : List String := ["_test", "_spec"]

def IsTest (s : List Char) : Prop :=
  (∃ p ∈ testPatterns, Resembles p s) ∨
    ∃ m ∈ lastMarks, ∃ a b, s = a ++ (m.toList ++ ['.']) ++ b ∧ '.' ∉ b

structure WorthReading (name : List Char) : Prop where
  visible : (lowerChars name).head? ≠ some '.'
  unlocked : String.ofList (lowerChars name) ∉ lockFiles
  untested : ¬ IsTest (lowerChars name)
  undenied : ∀ e ∈ deniedEndings, ¬ Resembles ("*" ++ e) (lowerChars name)
  allowed : String.ofList name ∈ allowedNames ∨
    ∃ stem ≠ [], ∃ e ∈ allowedExtensions, lowerChars name = stem ++ '.' :: e.toList

theorem isTest_of_not_mem (h : '.' ∉ s) : ¬ IsTest s := by
  have hdot : ∀ p ∈ testPatterns, ∃ w ∈ splitOn '*' p.toList, '.' ∈ w := by decide
  rintro (⟨p, hp, hfits⟩ | ⟨m, -, a, b, rfl, -⟩)
  · obtain ⟨w, hw, hmem⟩ := hdot p hp
    exact h (Glob.Fits.subset hfits hw hmem)
  · simp at h

theorem isTest_append {stem e : List Char} (he : '.' ∉ e) :
    IsTest (stem ++ '.' :: e) ↔
      ((".test".toList <:+ stem ∨ ".test.".toList <:+: stem) ∨
        (".spec".toList <:+ stem ∨ ".spec.".toList <:+: stem) ∨
        "test_".toList <+: stem ∧ ".py".toList <:+ stem ++ '.' :: e) ∨
      "_test".toList <:+ stem ∨ "_spec".toList <:+ stem := by
  have hinner (p : List Char) : Glob.Fits [[], p ++ ['.'], []] (stem ++ '.' :: e) ↔
      p <:+ stem ∨ p ++ ['.'] <:+: stem :=
    Glob.fits_inside.trans (Text.infix_append_last_iff he)
  have htest : Resembles "*.test.*" (stem ++ '.' :: e) ↔
      ".test".toList <:+ stem ∨ ".test.".toList <:+: stem := hinner ".test".toList
  have hspec : Resembles "*.spec.*" (stem ++ '.' :: e) ↔
      ".spec".toList <:+ stem ∨ ".spec.".toList <:+: stem := hinner ".spec".toList
  have hpython : Resembles "test_*.py" (stem ++ '.' :: e) ↔
      "test_".toList <+: stem ∧ ".py".toList <:+ stem ++ '.' :: e := by
    rw [← Text.prefix_append_cons_iff (w := e) (show '.' ∉ "test_".toList by decide)]
    exact Glob.fits_between.trans (Text.starts_and_ends_iff (by decide)).symm
  simp only [IsTest, testPatterns, lastMarks, List.mem_cons, List.not_mem_nil, or_false,
    exists_eq_or_imp, exists_eq_left, htest, hspec, hpython, Text.suffix_before_last_iff he]

theorem isTestFile_iff : isTestFile s = true ↔ IsTest s := by
  by_cases hs : '.' ∈ s
  · obtain ⟨stem, e, rfl, he⟩ := Text.exists_last_of_mem hs
    rw [isTest_append he, isTestFile, Text.splitLast_append_cons stem he]
    simp only [endsWith, Bool.or_eq_true, Bool.and_eq_true, List.isSuffixOf_iff_suffix,
      List.isPrefixOf_iff_prefix, Text.contains_iff]
    simp only [or_assoc, or_comm, or_left_comm, and_comm]
  · rw [isTestFile, Text.splitLast_of_not_mem hs]
    exact iff_of_false Bool.false_ne_true (isTest_of_not_mem hs)

theorem closed_allowedExtensions :
    ∀ e ∈ allowedExtensions, '.' ∉ e.toList ∧ e ∉ binaryExtensions := by
  decide +kernel

theorem hasAllowedExtension_iff :
    hasAllowedExtension s = true ↔
      ∃ stem ≠ [], ∃ e ∈ allowedExtensions, s = stem ++ '.' :: e.toList := by
  by_cases hs : '.' ∈ s
  · obtain ⟨stem, w, rfl, hw⟩ := Text.exists_last_of_mem hs
    have hcut : (∃ t ≠ [], ∃ e ∈ allowedExtensions, stem ++ '.' :: w = t ++ '.' :: e.toList) ↔
        stem ≠ [] ∧ String.ofList w ∈ allowedExtensions := by
      constructor
      · rintro ⟨t, ht, e, he, h⟩
        obtain ⟨rfl, rfl⟩ := Text.last_inj h hw (closed_allowedExtensions e he).1
        exact ⟨ht, by rwa [String.ofList_toList]⟩
      · rintro ⟨ht, he⟩
        exact ⟨stem, ht, _, he, by rw [String.toList_ofList]⟩
    have hbinary : String.ofList w ∈ allowedExtensions → String.ofList w ∉ binaryExtensions :=
      fun he => (closed_allowedExtensions _ he).2
    rw [hcut, hasAllowedExtension, Text.splitLast_append_cons stem hw]
    cases stem with
    | nil => simp
    | cons c stem =>
      simpa [isOneOf_iff, ← Bool.not_eq_true] using hbinary
  · rw [hasAllowedExtension, Text.splitLast_of_not_mem hs]
    refine iff_of_false Bool.false_ne_true ?_
    rintro ⟨stem, -, e, -, rfl⟩
    simp at hs

theorem resembles_end {w : String} (h : '*' ∉ w.toList) :
    Resembles ("*" ++ w) s ↔ w.toList <:+ s := by
  have hstar : "*".toList = ['*'] := rfl
  rw [Resembles, String.toList_append, hstar, List.singleton_append, Text.splitOn, if_pos rfl,
    Text.splitOn_eq_singleton h, Glob.fits_between]
  simp [List.suffix_iff_exists_eq_append]

theorem isAnalyzableName_iff (name : List Char) :
    isAnalyzableName name = true ↔ WorthReading name := by
  have hvisible : startsWithDot name = true ↔ (lowerChars name).head? = some '.' := by
    rw [Text.head?_lowerChars, startsWithDot, beq_iff_eq]
  have hdenied : (deniedEndings.any fun e => endsWith e (lowerChars name)) = true ↔
      ∃ e ∈ deniedEndings, Resembles ("*" ++ e) (lowerChars name) := by
    have hplain : ∀ e ∈ deniedEndings, '*' ∉ e.toList := by decide
    rw [List.any_eq_true]
    refine exists_congr fun e => and_congr_right fun he => ?_
    rw [resembles_end (hplain e he), endsWith, List.isSuffixOf_iff_suffix]
  simp only [isAnalyzableName, Bool.and_eq_true, Bool.or_eq_true, Bool.not_eq_true',
    ← Bool.not_eq_true, hvisible, isOneOf_iff, isTestFile_iff, hdenied, hasAllowedExtension_iff]
  constructor
  · rintro ⟨⟨⟨⟨hdot, hlock⟩, htest⟩, hend⟩, hallowed⟩
    exact ⟨hdot, hlock, htest, fun e he h => hend ⟨e, he, h⟩, hallowed⟩
  · intro h
    refine ⟨⟨⟨⟨h.visible, h.unlocked⟩, h.untested⟩, ?_⟩, h.allowed⟩
    rintro ⟨e, he, hend⟩
    exact h.undenied e he hend

theorem isAnalyzable_iff (p : Path) :
    isAnalyzable p = true ↔
      ∃ n : String, p.fileName? = some (Text.Utf8.encode n) ∧ WorthReading n.toList := by
  have hname (n : String) : p.fileName?.bind Text.Utf8.decode? = some n ↔
      p.fileName? = some (Text.Utf8.encode n) := by
    simp only [Option.bind_eq_some_iff, Text.Utf8.decode?_eq_some_iff, exists_eq_right']
  simp only [← hname]
  rw [isAnalyzable]
  cases p.fileName?.bind Text.Utf8.decode? with
  | none => simp
  | some n => simp [isAnalyzableName_iff]

theorem resembles_handlerTest :
    isAnalyzable ⟨"handler_test.gen.go"⟩ = true ∧
      Resembles "*_test.*" (lowerChars "handler_test.gen.go".toList) :=
  ⟨by decide, "handler".toList, "_test.gen.go".toList, by decide, "gen.go".toList, [], by decide, rfl⟩

end SourceDigest.Scan
