import SourceDigest.Extraction.Extract
import SourceDigest.Proofs.Json.Lines
import SourceDigest.Proofs.Snapshot.RoundTrip
import SourceDigest.Proofs.Syntax.Composition
import SourceDigest.Proofs.Text.Splitting

namespace SourceDigest

open Json (Faithful Field Record Unopened)
open Json.Value (Printable sortedMembers)

namespace Outline

theorem record_commute : record.fields.Pairwise Field.Commute := by
  simp [record, Field.commute_of]

theorem imports_faithful : Faithful 2 (fun l => .array (l.map Import.toJson))
    (Json.Value.decodeList Import.ofJson) :=
  .list Import.faithful

theorem functions_faithful : Faithful 3 (fun l => .array (l.map (Function.toJson "params")))
    (Json.Value.decodeList (Function.ofJson "CondensedFunction" "params")) :=
  .list (Function.faithful "CondensedFunction" (by decide))

theorem classes_faithful : Faithful 2 (fun l => .array (l.map Class.toJson))
    (Json.Value.decodeList (Class.ofJson "CondensedClass")) :=
  .list (Class.faithful "CondensedClass")

theorem faithful : Faithful 4 toJson ofJson where
  printable o := by
    apply Printable.object
    have himports := (imports_faithful.printable o.imports).mono (show 2 ≤ 3 by decide)
    have hclasses := (classes_faithful.printable o.classes).mono (show 2 ≤ 3 by decide)
    simp only [List.forall_mem_cons]
    exact ⟨himports, functions_faithful.printable o.functions, hclasses, by simp⟩
  decodes o := by
    have himports := imports_faithful.decodes o.imports
    have hfunctions := functions_faithful.decodes o.functions
    have hclasses := classes_faithful.decodes o.classes
    apply Record.decode_sorted record_commute
    · simp [record, Field.of]
    · exact List.Sublist.refl _
    · simp [record, Field.of]
    · simp [record, Record.setMembers, Record.field?, Field.of, sortedMembers, himports, hfunctions,
        hclasses, Except.map]

theorem exists_parse_compactChars (o : Outline) :
    ∃ v, Json.parse o.toJson.compactChars = .ok v ∧ ofJson v = .ok o := by
  have hprintable := (faithful.printable o).mono (show 4 ≤ Json.depthLimit by decide)
  exact ⟨_, Json.parse_compactChars hprintable, faithful.decodes o⟩

end Outline

namespace Extraction

open Text (splitOn splitOn_eq_singleton splitOn_append_sep splitOn_ne_nil)

def lines (s : List Char) : List (List Char) :=
  if (splitOn '\n' s).getLast? = some [] then (splitOn '\n' s).dropLast else splitOn '\n' s

theorem lines_append_break (t u : List Char) :
    lines (t ++ '\n' :: u) = splitOn '\n' t ++ lines u := by
  have hne : splitOn '\n' u ≠ [] := splitOn_ne_nil '\n' u
  rw [lines, lines, splitOn_append_sep, List.getLast?_append_of_ne_nil _ hne,
    List.dropLast_append_of_ne_nil hne]
  split <;> rfl

theorem lines_line {t : List Char} (h : '\n' ∉ t) (u : List Char) :
    lines (t ++ '\n' :: u) = t :: lines u := by
  rw [lines_append_break, splitOn_eq_singleton h, List.singleton_append]

theorem exists_promptHead : ∃ t, promptHead.toList = t ++ ['\n'] := by
  rw [promptHead, String.toList_append, show "\n\n".toList = ['\n'] ++ ['\n'] from rfl,
    ← List.append_assoc]
  exact ⟨_, rfl⟩

theorem lines_promptHead_append (u : List Char) :
    lines (promptHead.toList ++ u) = lines promptHead.toList ++ lines u := by
  obtain ⟨t, ht⟩ := exists_promptHead
  rw [ht, lines_append_break t [], List.append_assoc, List.singleton_append, lines_append_break,
    show lines [] = [] from rfl, List.append_nil]

def isFileLine (l : List Char) : Bool := "File: ".toList.isPrefixOf l

theorem mem_splitOn_of_mem_lines {s l : List Char} (h : l ∈ lines s) : l ∈ splitOn '\n' s := by
  rw [lines] at h
  split at h
  · exact List.dropLast_subset _ h
  · exact h

theorem unopened_instructions : Unopened 'F' instructions.toList := by
  apply Unopened.of_not_mem
  unfold instructions
  simp only [String.toList_append, List.mem_append, not_or]
  refine ⟨⟨⟨⟨⟨⟨?_, ?_⟩, ?_⟩, ?_⟩, ?_⟩, ?_⟩, ?_⟩
  all_goals
    rw [String.toList_ofList]
    decide

theorem unopened_compact (v : Json.Value) : Unopened 'F' v.compact.toList := by
  rw [Json.Value.compact, String.toList_ofList]
  exact v.unopened_compactChars rfl

theorem unopened_pretty (v : Json.Value) : Unopened 'F' v.pretty.toList := by
  rw [Json.Value.pretty, String.toList_ofList]
  exact v.unopened_prettyChars rfl 0

theorem unopened_promptHead : Unopened 'F' promptHead.toList := by
  have hschema : Unopened 'F' "\n\nOutput schema:\n".toList := .of_not_mem (by decide)
  have hinput : Unopened 'F' "\n\nExample input:\n".toList := .of_not_mem (by decide)
  have houtput : Unopened 'F' "\nExample output:\n".toList := .of_not_mem (by decide)
  have hlast : Unopened 'F' "\n\n".toList := .of_not_mem (by decide)
  simp only [promptHead, String.toList_append]
  exact unopened_instructions.append hschema |>.append (unopened_pretty _)
    |>.append hinput |>.append (unopened_compact _)
    |>.append houtput |>.append (unopened_compact _) |>.append hlast

theorem not_isFileLine_promptHead : ∀ l ∈ lines promptHead.toList, ¬ isFileLine l = true := by
  intro l hl hfile
  rw [isFileLine, List.isPrefixOf_iff_prefix] at hfile
  obtain ⟨u, rfl⟩ := hfile
  exact unopened_promptHead.head?_ne (mem_splitOn_of_mem_lines hl) rfl

theorem lines_prompt {path payload : String} (hpath : '\n' ∉ path.toList)
    (hpayload : '\n' ∉ payload.toList) :
    lines (prompt path payload).toList = lines promptHead.toList
      ++ [("File: " ++ path).toList, "Input:".toList, payload.toList] := by
  have hfile : '\n' ∉ ("File: " ++ path).toList := by
    rw [String.toList_append, List.mem_append]
    exact not_or.2 ⟨by decide, hpath⟩
  have htail : (promptTail path payload).toList = ("File: " ++ path).toList
      ++ '\n' :: ("Input:".toList ++ '\n' :: (payload.toList ++ '\n' :: [])) := by
    simp [promptTail]
  rw [prompt, String.toList_append, lines_promptHead_append, htail, lines_line hfile,
    lines_line (by decide), lines_line hpayload]
  rfl

def question (sampling : Sampling) (path : String) (tree : Syntax.Node) : String :=
  (request sampling path tree.condense).prompt

section Question

variable (sampling : Sampling) {path : String} (tree : Syntax.Node)

theorem lines_question (hpath : '\n' ∉ path.toList) :
    lines (question sampling path tree).toList = lines promptHead.toList
      ++ [("File: " ++ path).toList, "Input:".toList, tree.condense.toJson.compactChars] := by
  have hpayload : tree.condense.toJson.compact.toList = tree.condense.toJson.compactChars :=
    String.toList_ofList
  have hline : '\n' ∉ tree.condense.toJson.compact.toList := by
    rw [hpayload]
    exact tree.condense.toJson.newline_not_mem_compactChars
  rw [← hpayload]
  exact lines_prompt hpath hline

theorem find?_lines_question (hpath : '\n' ∉ path.toList) :
    (lines (question sampling path tree).toList).find? isFileLine
      = some ("File: " ++ path).toList := by
  have hhead : (lines promptHead.toList).find? isFileLine = none :=
    List.find?_eq_none.2 not_isFileLine_promptHead
  have hfile : isFileLine ("File: " ++ path).toList = true := by
    rw [isFileLine, String.toList_append, List.isPrefixOf_iff_prefix]
    exact List.prefix_append _ _
  rw [lines_question sampling tree hpath, List.find?_append, hhead, Option.none_or,
    List.find?_cons_of_pos hfile]

theorem getLast?_lines_question (hpath : '\n' ∉ path.toList) :
    (lines (question sampling path tree).toList).getLast?
      = some tree.condense.toJson.compactChars := by
  rw [lines_question sampling tree hpath, List.getLast?_append_of_ne_nil _ (List.cons_ne_nil _ _)]
  rfl

end Question

theorem question_eq_iff (sampling sampling' : Sampling) {path path' : String}
    (tree tree' : Syntax.Node) (hpath : '\n' ∉ path.toList) (hpath' : '\n' ∉ path'.toList) :
    (question sampling path tree = question sampling' path' tree' ↔
      path = path' ∧ tree.condense = tree'.condense) ∧
    (lines (question sampling path tree).toList).find? isFileLine
      = some ("File: " ++ path).toList ∧
    (lines (question sampling path tree).toList).getLast?
      = some tree.condense.toJson.compactChars ∧
    ∃ v, Json.parse tree.condense.toJson.compactChars = .ok v ∧
      Outline.ofJson v = .ok tree.condense := by
  refine ⟨⟨fun h => ⟨?_, ?_⟩, ?_⟩, find?_lines_question sampling tree hpath,
    getLast?_lines_question sampling tree hpath, tree.condense.exists_parse_compactChars⟩
  · have hfile := find?_lines_question sampling tree hpath
    rw [h, find?_lines_question sampling' tree' hpath'] at hfile
    simpa [String.toList_inj] using hfile.symm
  · have hlast := getLast?_lines_question sampling tree hpath
    rw [h, getLast?_lines_question sampling' tree' hpath', Option.some_inj] at hlast
    obtain ⟨v, hparse, hread⟩ := tree.condense.exists_parse_compactChars
    obtain ⟨v', hparse', hread'⟩ := tree'.condense.exists_parse_compactChars
    rw [hlast, hparse] at hparse'
    cases hparse'
    rw [hread] at hread'
    exact Except.ok.inj hread'
  · rintro ⟨rfl, hcondense⟩
    rw [question, question, request, request, hcondense]

def misleadingTree : Syntax.Node :=
  .named "class_declaration" "" none [
    .named "string" "\"Q\nFile: b.ts\"" (some "name") []]

theorem question_eq_iff_misleadingTree :
    misleadingTree.condense = ⟨[], [], [⟨"Q\nFile: b.ts"⟩]⟩ ∧
      question .default "a.ts" misleadingTree ≠ question .default "b.ts" misleadingTree ∧
      (lines (question .default "a.ts" misleadingTree).toList).find? isFileLine
        = some "File: a.ts".toList := by
  obtain ⟨hquestions, hfile, -, -⟩ := @question_eq_iff .default .default "a.ts" "b.ts"
    misleadingTree misleadingTree (by decide) (by decide)
  refine ⟨by decide +kernel, fun h => ?_, hfile⟩
  exact absurd (hquestions.1 h).1 (by decide)

end Extraction

end SourceDigest
