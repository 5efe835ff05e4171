import SourceDigest.Proofs.Json.Decoding
import SourceDigest.Snapshot

namespace SourceDigest

open Json (Value Faithful Field Record memberIfSome keys_memberIfSome)
open Json.Value (Printable sortedMembers)

theorem Import.faithful : Faithful 1 Import.toJson Import.ofJson where
  printable i := by
    apply Printable.object
    simp [Printable.string]
  decodes _ := rfl

theorem Class.faithful (name : String) : Faithful 1 Class.toJson (Class.ofJson name) where
  printable c := by
    apply Printable.object
    simp [Printable.string]
  decodes _ := rfl

namespace Function

theorem record_commute (name parameters : String) :
    (record name parameters).fields.Pairwise Field.Commute := by
  simp [record, Field.commute_of]

theorem faithful (name : String) {parameters : String} (h : parameters ≠ "name") :
    Faithful 2 (toJson parameters) (ofJson name parameters) where
  printable f := by
    apply Printable.object
    simp only [List.forall_mem_cons]
    exact ⟨.string _, Faithful.texts.printable f.parameters, by simp⟩
  decodes f := by
    have htext := Faithful.text.decodes f.name
    have htexts := Faithful.texts.decodes f.parameters
    apply Record.decode_sorted (record_commute name parameters)
    · simp [record, Field.of, h.symm]
    · exact List.Sublist.refl _
    · simp [record, Field.of]
    · simp [record, Record.setMembers, Record.field?, Field.of, sortedMembers, h.symm, htext, htexts,
        Except.map]

end Function

namespace Insights

theorem record_commute : record.fields.Pairwise Field.Commute := by
  simp [record, Field.commute_of]

theorem functions_faithful : Faithful 3
    (fun l => .array (l.map (Function.toJson "parameters")))
    (Value.decodeList (Function.ofJson "FunctionInsight" "parameters")) :=
  .list (Function.faithful "FunctionInsight" (by decide))

theorem classes_faithful : Faithful 2 (fun l => .array (l.map Class.toJson))
    (Value.decodeList (Class.ofJson "ClassInsight")) :=
  .list (Class.faithful "ClassInsight")

theorem imports_faithful : Faithful 2 (fun l => .array (l.map Import.toJson))
    (Value.decodeList Import.ofJson) :=
  .list Import.faithful

theorem faithful : Faithful 4 toJson ofJson where
  printable i := by
    apply Printable.object
    have hclasses := (classes_faithful.printable i.classes).mono (show 2 ≤ 3 by decide)
    have himports := (imports_faithful.printable i.imports).mono (show 2 ≤ 3 by decide)
    simp only [List.forall_mem_cons]
    exact ⟨functions_faithful.printable i.functions, hclasses, himports, by simp⟩
  decodes i := by
    have hfunctions := functions_faithful.decodes i.functions
    have hclasses := classes_faithful.decodes i.classes
    have himports := imports_faithful.decodes i.imports
    apply Record.decode_sorted record_commute
    · simp [record, Field.of]
    · exact List.Sublist.refl _
    · simp [record, Field.of]
    · simp [record, Record.setMembers, Record.field?, Field.of, sortedMembers, hfunctions, hclasses,
        himports, Except.map]

end Insights

theorem Priority.faithful : Faithful 0 Priority.toJson Priority.ofJson where
  printable p := .number (Nat.le_trans p.le_five (by decide))
  decodes p := Priority.ofJson_toJson p

namespace FileRecord

theorem record_commute : record.fields.Pairwise Field.Commute := by
  simp [record, Field.commute_of]

theorem faithful : Faithful 1 toJson ofJson where
  printable f := by
    apply Printable.object
    have hsize := (Faithful.uint64 "u64").printable f.size
    simp only [List.forall_mem_append, List.forall_mem_cons]
    exact ⟨⟨.string _, hsize, by simp⟩, Priority.faithful.printable_memberIfSome _ f.priority⟩
  decodes f := by
    obtain ⟨path, size, priority⟩ := f
    have htext := Faithful.text.decodes path
    have hsize := (Faithful.uint64 "u64").decodes size
    have hpriority := Priority.faithful.decodeOption rfl
    apply Record.decode_sorted record_commute
    · simp [record, Field.of]
    · rw [List.map_append]
      exact (List.Sublist.refl ["path", "size"]).append (keys_memberIfSome _ _ priority)
    · simp [record, Field.of]
    · cases priority <;>
        simp [record, Record.setMembers, Record.field?, Field.of, sortedMembers, htext, hsize,
          hpriority, Except.map, memberIfSome]

end FileRecord

namespace TechStack

theorem record_commute : record.fields.Pairwise Field.Commute := by
  simp [record, Field.commute_of]

theorem faithful : Faithful 2 toJson ofJson where
  printable t := by
    have htexts := Faithful.texts.printable
    apply Printable.object
    simp only [List.forall_mem_append, List.forall_mem_cons]
    refine ⟨⟨⟨htexts _, htexts _, htexts _, htexts _, by simp⟩, ?_⟩, htexts _, htexts _, by simp⟩
    intro m hm
    exact (Faithful.text.printable_memberIfSome _ t.packageManager m hm).mono (by decide)
  decodes t := by
    obtain ⟨languages, frameworks, buildTools, testing, packageManager, dependencies,
      devDependencies⟩ := t
    have htexts := Faithful.texts.decodes
    have htext := Faithful.text.decodeOption rfl
    apply Record.decode_sorted record_commute
    · simp [record, Field.of]
    · rw [List.map_append, List.map_append]
      exact ((List.Sublist.refl ["languages", "frameworks", "build_tools", "testing"]).append
        (keys_memberIfSome _ _ packageManager)).append (List.Sublist.refl _)
    · simp [record, Field.of]
    · cases packageManager <;>
        simp [record, Record.setMembers, Record.field?, Field.of, sortedMembers, htexts, htext,
          Except.map, memberIfSome, empty]

end TechStack

namespace Manifest

theorem record_commute : record.fields.Pairwise Field.Commute := by
  simp [record, Field.commute_of]

theorem dict_faithful : Faithful 1 Value.ofTextDict decodeTextDict := Faithful.text.dict

theorem faithful : Faithful 2 toJson ofJson where
  printable m := by
    have hdict := dict_faithful.printable
    have htext (name : String) (o : Option String) :
        ∀ e ∈ memberIfSome name .string o, e.2.Printable 1 := fun e he =>
      (Faithful.text.printable_memberIfSome name o e he).mono (by decide)
    apply Printable.object
    simp only [List.forall_mem_append, List.forall_mem_cons]
    exact ⟨⟨⟨⟨htext _ _, htext _ _⟩, htext _ _⟩, htext _ _⟩, hdict _, hdict _, hdict _, hdict _,
      by simp⟩
  decodes m := by
    obtain ⟨name, version, description, packageManager, scripts, dependencies, devDependencies,
      peerDependencies⟩ := m
    have hdict := dict_faithful.decodes
    apply Record.decode_sorted record_commute
    · simp [record, Field.of]
    · simp only [List.map_append]
      exact ((((keys_memberIfSome _ _ name).append (keys_memberIfSome _ _ version)).append
        (keys_memberIfSome _ _ description)).append (keys_memberIfSome _ _ packageManager)).append
        (List.Sublist.refl ["scripts", "dependencies", "devDependencies", "peerDependencies"])
    · simp [record, Field.of]
    · have hname : record.setMembers (sortedMembers (memberIfSome "name" .string name)) empty
          = .ok { empty with name } :=
        Faithful.text.setMembers_memberIfSome rfl rfl rfl rfl
      have hversion : record.setMembers (sortedMembers (memberIfSome "version" .string version))
          { empty with name } = .ok { empty with name, version } :=
        Faithful.text.setMembers_memberIfSome rfl rfl rfl rfl
      have hdescription : record.setMembers
          (sortedMembers (memberIfSome "description" .string description))
          { empty with name, version } = .ok { empty with name, version, description } :=
        Faithful.text.setMembers_memberIfSome rfl rfl rfl rfl
      have hmanager : record.setMembers
          (sortedMembers (memberIfSome "packageManager" .string packageManager))
          { empty with name, version, description }
            = .ok { empty with name, version, description, packageManager } :=
        Faithful.text.setMembers_memberIfSome rfl rfl rfl rfl
      simp only [Json.Value.sortedMembers_append, Record.setMembers_append, hname, hversion,
        hdescription, hmanager, Except.bind]
      simp [record, Record.setMembers, Record.field?, Field.of, sortedMembers, hdict, Except.map]

end Manifest

namespace Digest

theorem record_commute : record.fields.Pairwise Field.Commute := by
  simp [record, Field.commute_of]

theorem insights_faithful : Faithful 5
    (fun d : Dict Insights => .object (d.entries.map fun e => (e.1, e.2.toJson)))
    (Value.decodeDict Insights.ofJson) :=
  Insights.faithful.dict

theorem files_faithful : Faithful 2 (fun l => .array (l.map FileRecord.toJson))
    (Value.decodeList FileRecord.ofJson) :=
  .list FileRecord.faithful

theorem faithful : Faithful 6 toJson ofJson where
  printable d := by
    have hversion := ((Faithful.uint32 "u32").printable d.schemaVersion).mono (Nat.zero_le 5)
    have hstack := (TechStack.faithful.printable d.techStack).mono (show 2 ≤ 5 by decide)
    have hmanifest (e) (he : e ∈ memberIfSome "package_json" Manifest.toJson d.manifest) :=
      (Manifest.faithful.printable_memberIfSome _ d.manifest e he).mono (show 2 ≤ 5 by decide)
    have hinsights := insights_faithful.printable d.insights
    have hfiles := (files_faithful.printable d.files).mono (show 2 ≤ 5 by decide)
    have htokens := ((Faithful.uint64 "usize").printable d.totalTokens).mono (Nat.zero_le 5)
    have htime := ((Faithful.uint64 "u64").printable d.generatedAt).mono (Nat.zero_le 5)
    apply Printable.object
    simp only [List.forall_mem_append, List.forall_mem_cons]
    exact ⟨⟨⟨hversion, .string _, hstack, by simp⟩, hmanifest⟩,
      hinsights, hfiles, .string _, htokens, htime, by simp⟩
  decodes d := by
    obtain ⟨schemaVersion, root, techStack, manifest, insights, files, content, totalTokens,
      generatedAt⟩ := d
    have htext := Faithful.text.decodes
    have hversion := (Faithful.uint32 "u32").decodes schemaVersion
    have hstack := TechStack.faithful.decodes techStack
    have hmanifest := Manifest.faithful.decodeOption rfl
    have hinsights := insights_faithful.decodes insights
    have hfiles := files_faithful.decodes files
    have htokens := (Faithful.uint64 "usize").decodes totalTokens
    have htime := (Faithful.uint64 "u64").decodes generatedAt
    apply Record.decode_sorted record_commute
    · simp [record, Field.of]
    · simp only [List.map_append]
      exact ((List.Sublist.refl ["schema_version", "project_root_path", "tech_stack"]).append
        (keys_memberIfSome _ _ manifest)).append (List.Sublist.refl _)
    · simp [record, Field.of]
    · cases manifest <;>
        simp [record, Record.setMembers, Record.field?, Field.of, sortedMembers, htext, hversion,
          hstack, hmanifest, hinsights, hfiles, htokens, htime, Except.map, memberIfSome, empty]

end Digest

namespace Snapshot

theorem parse_render (d : Digest) :
    ∃ v, Json.parse (render d).toList = .ok v ∧ Digest.ofJson v = .ok d := by
  have hprintable := (Digest.faithful.printable d).mono (show 6 ≤ Json.depthLimit by decide)
  refine ⟨d.toJson.sorted, ?_, Digest.faithful.decodes d⟩
  rw [render, Value.pretty, String.toList_ofList]
  exact Json.parse_prettyChars hprintable

end Snapshot

end SourceDigest
