import SourceDigest.Proofs.Scan.Glob
import SourceDigest.Scan.Ranking

namespace SourceDigest.Scan

open Glob
open Text (lowerChars splitOn splitLast)

variable {name path d s w : List Char}

def manifestNames : List String := [
  "package.json", "cargo.toml", "pyproject.toml", "setup.py", "setup.cfg", "pipfile", "go.mod",
  "gemfile", "composer.json", "pom.xml", "build.gradle", "build.gradle.kts", "deno.json",
  "tsconfig.json"]

def entryNames : List String := [
  "lib.rs", "mod.rs", "__init__.py", "__main__.py", "manage.py", "dockerfile", "compose.yaml",
  "compose.yml", "makefile", "justfile"]

def entryStarts : List String := ["main.", "index.", "app.", "server.", "docker-compose."]

def sourceRoots : List String := ["lib", "app", "pkg", "cmd", "internal"]

def IsManifest (name : List Char) : Prop :=
  String.ofList name ∈ manifestNames ∨ "readme".toList <+: name ∨
    "requirements".toList <+: name ∧ ".txt".toList <:+ name

def IsEntry (name : List Char) : Prop :=
  String.ofList name ∈ entryNames ∨ (∃ w ∈ entryStarts, w.toList <+: name) ∨
    ".config.".toList <:+: name

def IsCode (name : List Char) : Prop := ∃ e ∈ codeExtensions, '.' :: e.toList <:+ name

def InSources (dirs : List (List Char)) : Prop :=
  "src".toList ∈ dirs ∨ ∃ w ∈ sourceRoots, dirs.head? = some w.toList

instance (name : List Char) : Decidable (IsManifest name) :=
  inferInstanceAs (Decidable (_ ∨ _ ∨ _ ∧ _))

instance (name : List Char) : Decidable (IsEntry name) :=
  inferInstanceAs (Decidable (_ ∨ (∃ w ∈ entryStarts, w.toList <+: name) ∨ _))

instance (name : List Char) : Decidable (IsCode name) :=
  inferInstanceAs (Decidable (∃ e ∈ codeExtensions, '.' :: e.toList <:+ name))

instance (dirs : List (List Char)) : Decidable (InSources dirs) :=
  inferInstanceAs (Decidable (_ ∨ ∃ w ∈ sourceRoots, dirs.head? = some w.toList))

def levelOf (dirs : List (List Char)) (name : List Char) : Nat :=
  if IsManifest name then 1
  else if IsEntry name then 2
  else if IsCode name ∧ InSources dirs then 3
  else if IsCode name then 4
  else 5

def codePieces : List Glob := [.star, .char '.', .oneOf (codeExtensions.map String.toList)]

def codeText : List Char :=
  '*' :: '.' :: '\x7b' :: (Text.joinWith [','] (codeExtensions.map String.toList) ++ ['\x7d'])

theorem toList_codePattern (start : String) :
    (codePattern start).toList = start.toList ++ codeText := by
  have hcomma : ",".toList = [','] := rfl
  have hopen : "*.\x7b".toList = ['*', '.', '\x7b'] := rfl
  have hclose : "\x7d".toList = ['\x7d'] := rfl
  simp only [codePattern, String.toList_append, String.toList_intercalate, hcomma, hopen, hclose,
    ← Text.joinWith_eq_intercalate, codeText, List.append_assoc, List.cons_append,
    List.nil_append]

theorem closed_codeExtensions :
    ∀ w ∈ codeExtensions.map String.toList, ',' ∉ w ∧ '\x7d' ∉ w ∧ '/' ∉ w := by
  decide

theorem reads_codeText : Reads codeText codePieces :=
  .star (.char (by decide) (.braces (by decide)
    (fun w hw => ⟨(closed_codeExtensions w hw).1, (closed_codeExtensions w hw).2.1⟩) .nil))

theorem matches_codePieces : Matches codePieces s ↔ '/' ∉ s ∧ IsCode s := by
  simp only [codePieces, Matches, Stands, exists_eq_left, List.mem_map]
  constructor
  · rintro ⟨t, ht, _, rfl, _, rfl, _, ⟨e, he, rfl⟩, _, rfl, rfl⟩
    have hslash : '/' ∉ e.toList := (closed_codeExtensions _ (List.mem_map_of_mem he)).2.2
    exact ⟨by simp [ht, hslash], e, he, by simp⟩
  · rintro ⟨hs, e, he, t, rfl⟩
    rw [List.mem_append, not_or] at hs
    exact ⟨t, hs.1, _, rfl, e.toList, rfl, _, ⟨e, he, rfl⟩, [], by simp, rfl⟩

theorem globMatches_code (hs : '/' ∉ s) : globMatches (codePattern "") s = true ↔ IsCode s := by
  have hreads : Reads (codePattern "").toList codePieces := by
    rw [toList_codePattern]
    exact reads_codeText
  have hstart : ¬ ['*', '*', '/'] <+: (codePattern "").toList := by
    rw [toList_codePattern]
    simp [codeText]
  rw [globMatches, hreads.ofPattern hstart, matchPieces_iff, matches_codePieces]
  exact and_iff_right hs

theorem matches_below :
    Matches (.innerDirectories :: codePieces) s ↔
      ∃ b, (b = [] ∨ ∃ u, b = '/' :: u) ∧ ∃ n, s = b ++ '/' :: n ∧ '/' ∉ n ∧ IsCode n := by
  rw [Matches, matches_inner]
  simp only [matches_codePieces]
  constructor
  · rintro ⟨hhead, t, n, rfl, hn⟩
    refine ⟨t, ?_, n, rfl, hn⟩
    cases t with
    | nil => exact Or.inl rfl
    | cons c t => exact Or.inr ⟨t, by rw [Option.some.inj hhead]⟩
  · rintro ⟨b, rfl | ⟨u, rfl⟩, n, rfl, hn⟩
    · exact ⟨rfl, [], n, rfl, hn⟩
    · exact ⟨rfl, '/' :: u, n, rfl, hn⟩

theorem matches_directory_iff (hname : '/' ∉ name) :
    Matches (literal w ++ .innerDirectories :: codePieces) (d ++ '/' :: name) ↔
      (∃ b, d = w ++ b ∧ (b = [] ∨ ∃ u, b = '/' :: u)) ∧ IsCode name := by
  simp only [matches_literal_append, matches_below]
  constructor
  · rintro ⟨_, hs, b, hb, n, rfl, hn, hcode⟩
    rw [← List.append_assoc] at hs
    obtain ⟨rfl, rfl⟩ := Text.last_inj hs hname hn
    exact ⟨⟨b, rfl, hb⟩, hcode⟩
  · rintro ⟨⟨b, rfl, hb⟩, hcode⟩
    exact ⟨_, by rw [List.append_assoc], b, hb, name, rfl, hname, hcode⟩

theorem not_matches_directory (hpath : '/' ∉ path) :
    ¬ Matches (literal w ++ .innerDirectories :: codePieces) path := by
  simp only [matches_literal_append, matches_below]
  rintro ⟨_, rfl, b, -, n, rfl, -⟩
  simp at hpath

theorem ofPattern_directory {root : String} (plain : ∀ c ∈ root.toList, c ∉ ['/', '*', '\x7b']) :
    ofPattern (codePattern (root ++ "/**/")) =
      literal root.toList ++ .innerDirectories :: codePieces := by
  have htext : (codePattern (root ++ "/**/")).toList =
      root.toList ++ '/' :: '*' :: '*' :: '/' :: codeText := by
    rw [toList_codePattern, String.toList_append, List.append_assoc]
    rfl
  have hreads : Reads (codePattern (root ++ "/**/")).toList
      (literal root.toList ++ .innerDirectories :: codePieces) := by
    rw [htext]
    exact (Reads.inner reads_codeText).literal_append plain
  refine hreads.ofPattern fun hstart => ?_
  rw [htext] at hstart
  cases hroot : root.toList with
  | nil => simp [hroot] at hstart
  | cons c t =>
    rw [hroot] at hstart plain
    obtain rfl : '*' = c := (List.cons_prefix_cons.1 hstart).1
    exact plain '*' List.mem_cons_self (by simp)

theorem ofPattern_sources :
    ofPattern (codePattern "**/src/**/") =
      .leadingDirectories :: (literal "src".toList ++ .innerDirectories :: codePieces) := by
  have hreads := (Reads.inner reads_codeText).literal_append
    (show ∀ c ∈ "src".toList, c ∉ ['/', '*', '\x7b'] by simp)
  refine hreads.ofPattern_leading ?_
  rw [toList_codePattern]
  rfl

theorem matches_sources_iff (hname : '/' ∉ name) :
    Matches (.leadingDirectories :: (literal "src".toList ++ .innerDirectories :: codePieces))
        (d ++ '/' :: name) ↔
      "src".toList ∈ splitOn '/' d ∧ IsCode name := by
  rw [Matches, matches_leading, Text.mem_splitOn_iff]
  constructor
  · rintro (h | ⟨t, u, hs, h⟩)
    · obtain ⟨⟨b, rfl, hb⟩, hcode⟩ := (matches_directory_iff hname).1 h
      exact ⟨⟨by decide, [], b, rfl, Or.inl rfl, hb⟩, hcode⟩
    · -- The last slash behind the directory is the last one of the whole path.
      have hslash : '/' ∈ u := by_contra fun hu => not_matches_directory hu h
      obtain ⟨e, n, rfl, hn⟩ := Text.exists_last_of_mem hslash
      obtain ⟨⟨b, rfl, hb⟩, hcode⟩ := (matches_directory_iff hn).1 h
      rw [← List.cons_append, ← List.append_assoc] at hs
      obtain ⟨rfl, rfl⟩ := Text.last_inj hs hname hn
      exact ⟨⟨by decide, t ++ ['/'], b, by simp, Or.inr ⟨t, rfl⟩, hb⟩, hcode⟩
  · rintro ⟨⟨-, a, b, rfl, ha, hb⟩, hcode⟩
    have h : Matches (literal "src".toList ++ .innerDirectories :: codePieces)
        ("src".toList ++ b ++ '/' :: name) :=
      (matches_directory_iff hname).2 ⟨⟨b, rfl, hb⟩, hcode⟩
    rcases ha with rfl | ⟨t, rfl⟩
    · exact Or.inl h
    · exact Or.inr ⟨t, _, by simp, h⟩

theorem paths_sourceLevel :
    sourceLevel.paths =
      codePattern "**/src/**/" :: sourceRoots.map fun w => codePattern (w ++ "/**/") := rfl

theorem covers_sourceLevel_iff {n : List Char} :
    sourceLevel.covers n path = true ↔
      Matches (.leadingDirectories :: (literal "src".toList ++ .innerDirectories :: codePieces))
          path ∨
        ∃ w ∈ sourceRoots, Matches (literal w.toList ++ .innerDirectories :: codePieces) path := by
  have hplain : ∀ w ∈ sourceRoots, ∀ c ∈ w.toList, c ∉ ['/', '*', '\x7b'] := by
    simp [sourceRoots]
  rw [Level.covers, paths_sourceLevel]
  simp only [sourceLevel, List.any_nil, Bool.false_or, List.any_cons, List.any_map, Bool.or_eq_true,
    List.any_eq_true, Function.comp_apply, globMatches, ofPattern_sources, matchPieces_iff]
  refine or_congr_right (exists_congr fun w => and_congr_right fun hw => ?_)
  rw [ofPattern_directory (hplain w hw)]

theorem covers_sourceLevel {dirs : List (List Char)} {n : List Char}
    (hpath : splitOn '/' path = dirs ++ [name]) :
    sourceLevel.covers n path = true ↔ IsCode name ∧ InSources dirs := by
  rw [covers_sourceLevel_iff, InSources]
  by_cases hslash : '/' ∈ path
  · obtain ⟨d, m, rfl, hm⟩ := Text.exists_last_of_mem hslash
    rw [Text.splitOn_concat d hm] at hpath
    obtain ⟨rfl, hlast⟩ := List.append_inj' hpath rfl
    obtain rfl := (List.cons.inj hlast).1
    have hroots : ∀ w ∈ sourceRoots, '/' ∉ w.toList := by decide
    rw [matches_sources_iff hm, and_or_left, and_comm (a := IsCode m)]
    refine or_congr_right ?_
    simp only [matches_directory_iff hm]
    constructor
    · rintro ⟨w, hw, hb, hcode⟩
      exact ⟨hcode, w, hw, Text.head?_splitOn_iff.2 ⟨hroots w hw, hb⟩⟩
    · rintro ⟨hcode, w, hw, hhead⟩
      exact ⟨w, hw, (Text.head?_splitOn_iff.1 hhead).2, hcode⟩
  · rw [Text.splitOn_eq_singleton hslash] at hpath
    obtain rfl : dirs = [] := by simpa using congrArg List.length hpath
    refine iff_of_false ?_ (by simp)
    rintro (h | ⟨w, -, h⟩)
    · rw [Matches, matches_leading] at h
      rcases h with h | ⟨t, u, rfl, -⟩
      · exact not_matches_directory hslash h
      · simp at hslash
    · exact not_matches_directory hslash h

theorem any_globMatches_iff {patterns : List String}
    (h : ∀ p ∈ patterns, '/' ∉ p.toList ∧ '\x7b' ∉ p.toList) (hname : '/' ∉ name) :
    patterns.any (globMatches · name) = true ↔
      ∃ p ∈ patterns, Fits (splitOn '*' p.toList) name := by
  rw [List.any_eq_true]
  exact exists_congr fun p => and_congr_right fun hp =>
    globMatches_iff_fits (h p hp).1 (h p hp).2 hname

theorem exists_fits_iff {names : List String} (h : ∀ p ∈ names, '*' ∉ p.toList) :
    (∃ p ∈ names, Fits (splitOn '*' p.toList) name) ↔ String.ofList name ∈ names := by
  constructor
  · rintro ⟨p, hp, hfits⟩
    rw [Text.splitOn_eq_singleton (h p hp), fits_singleton] at hfits
    rwa [hfits, String.ofList_toList]
  · intro hmem
    refine ⟨_, hmem, ?_⟩
    rw [Text.splitOn_eq_singleton (h _ hmem), fits_singleton, String.toList_ofList]

theorem covers_iff_of_names {l : Level} (hpaths : l.paths = []) {patterns : List String}
    (hnames : l.names.Perm patterns) (h : ∀ p ∈ patterns, '/' ∉ p.toList ∧ '\x7b' ∉ p.toList)
    (hname : '/' ∉ name) :
    l.covers name path = true ↔ ∃ p ∈ patterns, Fits (splitOn '*' p.toList) name := by
  rw [Level.covers, hpaths, List.any_nil, Bool.or_false, hnames.any_eq,
    any_globMatches_iff h hname]

theorem fits_splitOn_star {w : String} (h : '*' ∉ w.toList) :
    Fits (splitOn '*' (w ++ "*").toList) name ↔ w.toList <+: name := by
  have hstar : "*".toList = ['*'] := rfl
  rw [String.toList_append, hstar, Text.splitOn_append_cons h]
  exact fits_start

theorem names_manifestLevel :
    manifestLevel.names.Perm (manifestNames ++ ["readme*", "requirements*.txt"]) := by
  decide

theorem covers_manifestLevel (hname : '/' ∉ name) :
    manifestLevel.covers name path = true ↔ IsManifest name := by
  have hreadme : Fits (splitOn '*' "readme*".toList) name ↔ "readme".toList <+: name := fits_start
  have hrequirements : Fits (splitOn '*' "requirements*.txt".toList) name ↔
      "requirements".toList <+: name ∧ ".txt".toList <:+ name :=
    fits_between.trans (Text.starts_and_ends_iff (by decide)).symm
  have hexact : (∃ p ∈ manifestNames, Fits (splitOn '*' p.toList) name) ↔
      String.ofList name ∈ manifestNames := exists_fits_iff (by decide)
  rw [covers_iff_of_names rfl names_manifestLevel (by decide) hname, IsManifest, ← hreadme,
    ← hrequirements, ← hexact]
  simp only [List.mem_append, or_and_right, exists_or, List.mem_cons, List.not_mem_nil, or_false,
    exists_eq_left]

theorem names_entryLevel :
    entryLevel.names.Perm
      (entryNames ++ (entryStarts.map fun w => w ++ "*") ++ ["*.config.*"]) := by
  decide

theorem covers_entryLevel (hname : '/' ∉ name) :
    entryLevel.covers name path = true ↔ IsEntry name := by
  have hconfig : Fits (splitOn '*' "*.config.*".toList) name ↔ ".config.".toList <:+: name :=
    fits_inside
  have hplain : ∀ w ∈ entryStarts, '*' ∉ w.toList := by decide
  have hexact : (∃ p ∈ entryNames, Fits (splitOn '*' p.toList) name) ↔
      String.ofList name ∈ entryNames := exists_fits_iff (by decide)
  have hstarts : (∃ p ∈ entryStarts.map fun w => w ++ "*", Fits (splitOn '*' p.toList) name) ↔
      ∃ w ∈ entryStarts, w.toList <+: name := by
    simp only [List.mem_map, exists_exists_and_eq_and]
    exact exists_congr fun w => and_congr_right fun hw => fits_splitOn_star (hplain w hw)
  rw [covers_iff_of_names rfl names_entryLevel (by decide) hname, IsEntry, ← hconfig, ← hexact,
    ← hstarts]
  simp only [List.mem_append, or_and_right, exists_or, List.mem_cons, List.not_mem_nil, or_false,
    exists_eq_left, or_assoc]

theorem covers_codeLevel (hname : '/' ∉ name) :
    codeLevel.covers name path = true ↔ IsCode name := by
  simp only [Level.covers, codeLevel, List.any_cons, List.any_nil, Bool.or_false,
    globMatches_code hname]

theorem find?_levels {dirs : List (List Char)} (hpath : splitOn '/' path = dirs ++ [name]) :
    levels.find? (·.covers name path) =
      if IsManifest name then some manifestLevel
      else if IsEntry name then some entryLevel
      else if IsCode name ∧ InSources dirs then some sourceLevel
      else if IsCode name then some codeLevel
      else none := by
  have hlast : name ∈ splitOn '/' path := by simp [hpath]
  have hname := Text.not_mem_of_mem_splitOn hlast
  have hfirst {l : Level} {ls : List Level} (h : l.covers name path = true) :
      (l :: ls).find? (·.covers name path) = some l := List.find?_cons_of_pos h
  have hnext {l : Level} {ls : List Level} (h : ¬ l.covers name path = true) :
      (l :: ls).find? (·.covers name path) = ls.find? (·.covers name path) :=
    List.find?_cons_of_neg h
  rw [levels]
  by_cases h₁ : IsManifest name
  · rw [if_pos h₁, hfirst ((covers_manifestLevel hname).2 h₁)]
  rw [if_neg h₁, hnext (mt (covers_manifestLevel hname).1 h₁)]
  by_cases h₂ : IsEntry name
  · rw [if_pos h₂, hfirst ((covers_entryLevel hname).2 h₂)]
  rw [if_neg h₂, hnext (mt (covers_entryLevel hname).1 h₂)]
  by_cases h₃ : IsCode name ∧ InSources dirs
  · rw [if_pos h₃, hfirst ((covers_sourceLevel hpath).2 h₃)]
  rw [if_neg h₃, hnext (mt (covers_sourceLevel hpath).1 h₃)]
  by_cases h₄ : IsCode name
  · rw [if_pos h₄, hfirst ((covers_codeLevel hname).2 h₄)]
  · rw [if_neg h₄, hnext (mt (covers_codeLevel hname).1 h₄), List.find?_nil]

theorem level_priorityOf (relative : String) :
    let parts := splitOn '/' (lowerChars relative.toList)
    (priorityOf relative).level =
      levelOf parts.dropLast (parts.getLast (Text.splitOn_ne_nil _ _)) := by
  have hne := Text.splitOn_ne_nil '/' (lowerChars relative.toList)
  have hfind := find?_levels (List.dropLast_concat_getLast hne).symm
  simp only [priorityOf, Text.splitLast_snd, hfind, levelOf]
  split_ifs <;> rfl

end SourceDigest.Scan
