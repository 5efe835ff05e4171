import Mathlib.Data.List.Sort
import Mathlib.Data.String.Basic
import SourceDigest.Proofs.Text.Splitting
import SourceDigest.TechStack.Summary

namespace SourceDigest

section Texts

variable {l l' : List String} {s x : String}

theorem ascending_insertText (h : l.Pairwise (· < ·)) : (insertText s l).Pairwise (· < ·) := by
  induction l with
  | nil => exact List.pairwise_singleton _ s
  | cons t l ih =>
    obtain ⟨ht, hl⟩ := List.pairwise_cons.1 h
    simp only [insertText]
    split
    · rename_i hst
      refine List.pairwise_cons.2 ⟨fun x hx => ?_, h⟩
      rcases List.mem_cons.1 hx with rfl | hx
      · exact hst
      · exact hst.trans (ht x hx)
    · split
      · exact h
      · rename_i hst hne
        refine List.pairwise_cons.2 ⟨fun x hx => ?_, ih hl⟩
        rcases mem_insertText.1 hx with rfl | hx
        · exact lt_of_le_of_ne (not_lt.1 hst) (Ne.symm hne)
        · exact ht x hx

theorem mem_sortTexts : x ∈ sortTexts l ↔ x ∈ l := by
  have hfold : ∀ acc : List String,
      x ∈ l.foldl (fun acc s => insertText s acc) acc ↔ x ∈ acc ∨ x ∈ l := by
    induction l with
    | nil => simp
    | cons s l ih =>
      intro acc
      rw [List.foldl_cons, ih, mem_insertText, List.mem_cons, or_assoc, or_left_comm]
  exact (hfold []).trans (by simp)

theorem ascending_sortTexts (l : List String) : (sortTexts l).Pairwise (· < ·) := by
  have hfold : ∀ acc : List String, acc.Pairwise (· < ·) →
      (l.foldl (fun acc s => insertText s acc) acc).Pairwise (· < ·) := by
    induction l with
    | nil => exact fun acc h => h
    | cons s l ih => exact fun acc h => ih _ (ascending_insertText h)
  exact hfold [] .nil

theorem sortTexts_eq_of_mem_iff (h : ∀ x, x ∈ l ↔ x ∈ l') : sortTexts l = sortTexts l' := by
  have hl := ascending_sortTexts l
  have hl' := ascending_sortTexts l'
  have hperm : (sortTexts l).Perm (sortTexts l') :=
    (List.perm_ext_iff_of_nodup (hl.imp ne_of_lt) (hl'.imp ne_of_lt)).2 fun x => by
      rw [mem_sortTexts, mem_sortTexts, h x]
  exact hperm.eq_of_pairwise (fun a b _ _ hab hba => absurd hab hba.not_gt) hl hl'

end Texts

namespace TechStack

open Text (lower splitLast)

variable {files files' : List FileRecord} {f : FileRecord} {language : String}

theorem lookup_eq_some_iff_mem {table : List (String × String)}
    (h : ∀ e ∈ table, table.lookup e.1 = some e.2) {key name : String} :
    table.lookup key = some name ↔ (key, name) ∈ table := by
  refine ⟨fun hlookup => ?_, h (key, name)⟩
  obtain ⟨before, after, rfl, -⟩ := List.lookup_eq_some_iff.1 hlookup
  exact List.mem_append_right before List.mem_cons_self

def WrittenIn (language : String) (f : FileRecord) : Prop :=
  ∃ stem extension, (lastSegment f.path).toList = stem ++ '.' :: extension ∧ '.' ∉ extension ∧
    (lower (String.ofList extension), language) ∈ languageExtensions

theorem languageOf?_eq_some_iff : languageOf? f = some language ↔ WrittenIn language f := by
  have htable : ∀ e ∈ languageExtensions, languageExtensions.lookup e.1 = some e.2 := by decide
  unfold languageOf? WrittenIn
  by_cases hdot : '.' ∈ (lastSegment f.path).toList
  · obtain ⟨stem, extension, hname, hlast⟩ := Text.exists_last_of_mem hdot
    simp only [hname, Text.splitLast_append_cons stem hlast, lookup_eq_some_iff_mem htable]
    constructor
    · exact fun h => ⟨stem, extension, rfl, hlast, h⟩
    · rintro ⟨stem', extension', heq, hlast', h⟩
      obtain ⟨-, rfl⟩ := Text.last_inj heq hlast hlast'
      exact h
  · simp only [Text.splitLast_of_not_mem hdot]
    refine iff_of_false (by simp) ?_
    rintro ⟨stem, extension, hname, -⟩
    exact hdot (hname ▸ List.mem_append_right stem List.mem_cons_self)

instance (language : String) (f : FileRecord) : Decidable (WrittenIn language f) :=
  decidable_of_iff (languageOf? f = some language) languageOf?_eq_some_iff

def fileCount (files : List FileRecord) (language : String) : Nat :=
  files.countP fun f => WrittenIn language f

theorem count_languages (files : List FileRecord) (language : String) :
    (files.filterMap languageOf?).count language = fileCount files language := by
  unfold fileCount List.count
  rw [List.countP_filterMap]
  refine List.countP_congr fun f _ => ?_
  rw [decide_eq_true_iff, ← languageOf?_eq_some_iff]
  cases languageOf? f <;> simp

theorem get?_countNames (names : List String) (x : String) :
    (countNames names).get? x = if names.count x = 0 then none else some (names.count x) := by
  have hfold : ∀ counts : Dict Nat,
      (names.foldl (fun counts n => countName n counts) counts).get? x =
        if names.count x = 0 then counts.get? x
        else some ((counts.get? x).getD 0 + names.count x) := by
    induction names with
    | nil => simp
    | cons n names ih =>
      intro counts
      rw [List.foldl_cons, ih, countName, Dict.get?_insert]
      by_cases hn : n = x
      · subst hn
        simp only [if_true, List.count_cons_self, Nat.add_eq_zero_iff, one_ne_zero, and_false,
          if_false, Option.getD_some]
        split <;> congr 1 <;> omega
      · rw [if_neg hn, List.count_cons_of_ne hn]
  rw [countNames, hfold, Dict.get?_empty, Option.getD_none, Nat.zero_add]

structure Tally (files : List FileRecord) (order : List (String × Nat)) : Prop where
  nodup : order.Nodup
  mem_iff : ∀ language n, (language, n) ∈ order ↔ 0 < n ∧ fileCount files language = n

theorem tally_countNames (files : List FileRecord) :
    Tally files (countNames (files.filterMap languageOf?)).entries where
  nodup := List.Nodup.of_map Prod.fst (Dict.keys_nodup _)
  mem_iff language n := by
    rw [Dict.mem_entries_iff, get?_countNames, count_languages]
    split
    · rename_i hzero
      refine iff_of_false (by simp) ?_
      omega
    · rename_i hpos
      rw [Option.some.injEq]
      omega

variable {order order' : List (String × Nat)}

theorem Tally.perm (h : Tally files order) (h' : Tally files order') : order.Perm order' :=
  (List.perm_ext_iff_of_nodup h.nodup h'.nodup).2 fun ⟨language, n⟩ => by
    rw [h.mem_iff, h'.mem_iff]

theorem Tally.of_perm (h : Tally files order) (hperm : files.Perm files') : Tally files' order where
  nodup := h.nodup
  mem_iff language n := by
    rw [h.mem_iff, fileCount, fileCount, hperm.countP_eq]

def ranked (order : List (String × Nat)) : List String :=
  (order.mergeSort ranksBefore).map Prod.fst

theorem ranksBefore_iff {a b : String × Nat} :
    ranksBefore a b = true ↔ b.2 < a.2 ∨ a.2 = b.2 ∧ a.1 ≤ b.1 := by
  unfold ranksBefore
  split
  · rename_i hne
    simp [hne]
  · rename_i heq
    have heq' : a.2 = b.2 := not_not.1 heq
    simp [heq']

theorem ranked_pairwise (order : List (String × Nat)) :
    (order.mergeSort ranksBefore).Pairwise fun a b => ranksBefore a b = true := by
  refine List.pairwise_mergeSort ?_ ?_ order
  · intro a b c hab hbc
    rw [ranksBefore_iff] at hab hbc ⊢
    rcases hab with hab | ⟨hab, hab'⟩
    · rcases hbc with hbc | ⟨hbc, -⟩
      · exact .inl (hbc.trans hab)
      · exact .inl (hbc ▸ hab)
    · rcases hbc with hbc | ⟨hbc, hbc'⟩
      · exact .inl (hab ▸ hbc)
      · exact .inr ⟨hab.trans hbc, hab'.trans hbc'⟩
  · intro a b
    rw [Bool.or_eq_true, ranksBefore_iff, ranksBefore_iff]
    rcases lt_trichotomy a.2 b.2 with h | h | h
    · exact .inr (.inl h)
    · exact (le_total a.1 b.1).imp (fun hle => .inr ⟨h, hle⟩) fun hle => .inr ⟨h.symm, hle⟩
    · exact .inl (.inl h)

theorem ranked_eq_of_perm (h : order.Perm order') : ranked order = ranked order' := by
  have hperm : (order.mergeSort ranksBefore).Perm (order'.mergeSort ranksBefore) :=
    (List.mergeSort_perm order _).trans (h.trans (List.mergeSort_perm order' _).symm)
  refine congrArg (List.map Prod.fst)
    (hperm.eq_of_pairwise ?_ (ranked_pairwise order) (ranked_pairwise order'))
  intro a b _ _ hab hba
  rw [ranksBefore_iff] at hab hba
  have hcount : a.2 = b.2 := by omega
  have hname : a.1 = b.1 :=
    le_antisymm (hab.resolve_left hcount.not_gt).2 (hba.resolve_left hcount.not_lt).2
  exact Prod.ext hname hcount

theorem Tally.ranked_eq (h : Tally files order) : ranked order = languagesOf files :=
  ranked_eq_of_perm (h.perm (tally_countNames files))

theorem mem_languagesOf_iff :
    language ∈ languagesOf files ↔ ∃ f ∈ files, WrittenIn language f := by
  have hentry := (tally_countNames files).mem_iff language
  simp only [languagesOf, List.mem_map, List.mem_mergeSort, Prod.exists, exists_and_right,
    exists_eq_right, hentry]
  rw [exists_eq_right', fileCount, List.countP_pos_iff]
  simp only [decide_eq_true_eq]

theorem languagesOf_pairwise (files : List FileRecord) :
    (languagesOf files).Pairwise fun a b =>
      fileCount files b < fileCount files a ∨
        fileCount files a = fileCount files b ∧ a < b := by
  have htally := tally_countNames files
  unfold languagesOf
  generalize (countNames (files.filterMap languageOf?)).entries = order at htally
  have hnodup : (order.mergeSort ranksBefore).Nodup :=
    (List.mergeSort_perm order _).nodup_iff.2 htally.nodup
  refine List.pairwise_map.2 ((hnodup.and (ranked_pairwise order)).imp_of_mem ?_)
  rintro ⟨a, m⟩ ⟨b, n⟩ ha hb ⟨hne, hbefore⟩
  obtain ⟨-, rfl⟩ := (htally.mem_iff a m).1 (List.mem_mergeSort.1 ha)
  obtain ⟨-, rfl⟩ := (htally.mem_iff b n).1 (List.mem_mergeSort.1 hb)
  rcases ranksBefore_iff.1 hbefore with hlt | ⟨heq, hle⟩
  · exact .inl hlt
  · exact .inr ⟨heq, lt_of_le_of_ne hle fun hab => hne (Prod.ext hab heq)⟩

def namesIn (manifest : Option Manifest) : List String :=
  match manifest with
  | none => []
  | some m => m.dependencyNames

def DependsOn (manifest : Option Manifest) (dependency : String) : Prop :=
  ∃ m ∈ manifest, dependency ∈ m.dependencies.keys ∨ dependency ∈ m.devDependencies.keys ∨
    dependency ∈ m.peerDependencies.keys

variable {manifest : Option Manifest}

theorem mem_namesIn_iff {dependency : String} :
    dependency ∈ namesIn manifest ↔ DependsOn manifest dependency := by
  cases manifest with
  | none => simp [namesIn, DependsOn]
  | some m => simp [namesIn, DependsOn, Manifest.dependencyNames, mem_sortTexts]

theorem summarize_eq (files : List FileRecord) (manifest : Option Manifest) :
    summarize files manifest =
      { languages := languagesOf files
        frameworks := matching (namesIn manifest) frameworkNames
        buildTools := sortTexts
          (files.filterMap toolOf? ++ matching (namesIn manifest) buildToolNames)
        testing := matching (namesIn manifest) testingNames
        packageManager := manifest.map fun m => managerName m.packageManager
        dependencies := (manifest.map (·.dependencies.keys)).getD []
        devDependencies := (manifest.map (·.devDependencies.keys)).getD [] } := by
  cases manifest with
  | none => simp [summarize, namesIn, matching, empty]
  | some m => rfl

theorem toolOf?_eq_some_iff {tool : String} :
    toolOf? f = some tool ↔ (lower (lastSegment f.path), tool) ∈ manifestTools :=
  lookup_eq_some_iff_mem (by decide)

theorem mem_matching_iff {names : List String} {table : List (String × String)} {name : String} :
    name ∈ matching names table ↔ ∃ dependency ∈ names, (dependency, name) ∈ table := by
  simp [matching, and_comm]

structure ListsGiven (manifest : Option Manifest) (table : List (String × String))
    (listed : List String) : Prop where
  mem_iff : ∀ e ∈ table, e.2 ∈ listed ↔ DependsOn manifest e.1
  sublist : listed.Sublist (table.map Prod.snd)

theorem listsGiven_matching {table : List (String × String)} (h : (table.map Prod.snd).Nodup) :
    ListsGiven manifest table (matching (namesIn manifest) table) where
  mem_iff e he := by
    rw [mem_matching_iff, ← mem_namesIn_iff]
    constructor
    · rintro ⟨dependency, hgiven, hmem⟩
      have heq := List.inj_on_of_nodup_map h hmem he rfl
      exact heq ▸ hgiven
    · exact fun hgiven => ⟨e.1, hgiven, he⟩
  sublist := (List.filter_sublist).map _

theorem mem_buildTools_iff {tool : String} :
    tool ∈ (summarize files manifest).buildTools ↔
      (∃ f ∈ files, (lower (lastSegment f.path), tool) ∈ manifestTools) ∨
        ∃ dependency, DependsOn manifest dependency ∧ (dependency, tool) ∈ buildToolNames := by
  simp only [summarize_eq, mem_sortTexts, List.mem_append, List.mem_filterMap, mem_matching_iff,
    toolOf?_eq_some_iff, mem_namesIn_iff]

theorem summarize_eq_of_perm (h : files.Perm files') :
    summarize files manifest = summarize files' manifest := by
  have hlanguages : languagesOf files = languagesOf files' :=
    ((tally_countNames files).of_perm h).ranked_eq
  have htools : sortTexts (files.filterMap toolOf? ++ matching (namesIn manifest) buildToolNames) =
      sortTexts (files'.filterMap toolOf? ++ matching (namesIn manifest) buildToolNames) :=
    sortTexts_eq_of_mem_iff fun x => by
      rw [List.mem_append, List.mem_append, (h.filterMap toolOf?).mem_iff]
  rw [summarize_eq, summarize_eq, hlanguages, htools]

theorem summarize_determined (files : List FileRecord) (manifest : Option Manifest) :
    (∀ files', files.Perm files' → summarize files manifest = summarize files' manifest) ∧
    (∀ order, Tally files order →
      summarize files manifest = { summarize files manifest with languages := ranked order }) ∧
    (summarize files manifest).languages.Nodup ∧
    (∀ language, language ∈ (summarize files manifest).languages ↔
      ∃ f ∈ files, WrittenIn language f) ∧
    ((summarize files manifest).languages.Pairwise fun a b =>
      fileCount files b < fileCount files a ∨
        fileCount files a = fileCount files b ∧ a < b) ∧
    (summarize files manifest).buildTools.Pairwise (· < ·) ∧
    (∀ tool, tool ∈ (summarize files manifest).buildTools ↔
      (∃ f ∈ files, (lower (lastSegment f.path), tool) ∈ manifestTools) ∨
        ∃ dependency, DependsOn manifest dependency ∧ (dependency, tool) ∈ buildToolNames) ∧
    ListsGiven manifest frameworkNames (summarize files manifest).frameworks ∧
    ListsGiven manifest testingNames (summarize files manifest).testing := by
  have hlanguages : (summarize files manifest).languages = languagesOf files := by
    rw [summarize_eq]
  have hpairs := languagesOf_pairwise files
  refine ⟨fun _ => summarize_eq_of_perm, fun order htally => ?_, ?_, ?_, ?_, ?_,
    fun _ => mem_buildTools_iff, ?_, ?_⟩
  · rw [htally.ranked_eq, ← hlanguages]
  · rw [hlanguages]
    refine hpairs.imp fun h heq => ?_
    subst heq
    simp at h
  · rw [hlanguages]
    exact fun _ => mem_languagesOf_iff
  · rw [hlanguages]
    exact hpairs
  · rw [summarize_eq]
    exact ascending_sortTexts _
  · rw [summarize_eq]
    exact listsGiven_matching (by decide)
  · rw [summarize_eq]
    exact listsGiven_matching (by decide)

end TechStack

end SourceDigest
