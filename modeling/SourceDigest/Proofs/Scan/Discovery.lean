import SourceDigest.Proofs.Scan.Sorting
import SourceDigest.Proofs.Scan.Walk

namespace SourceDigest.Scan

open Files (Memory)

variable {m : Memory} {options : Options} {root f : Path}

theorem checkRoot_of_missing (hfile : ¬ m.IsFile root) (hdir : ¬ m.IsDirectory root) :
    checkRoot m.system root = .error (.rootNotFound root) := by
  have hentry : ¬ m.system.hasEntry root = true :=
    fun h => (Memory.hasEntry_iff.1 h).elim hfile hdir
  unfold checkRoot
  rw [if_neg hentry]

theorem checkRoot_of_isFile (hm : m.Apart) (hfile : m.IsFile root) :
    checkRoot m.system root = .error (.rootNotDirectory root) := by
  have hentry : m.system.hasEntry root = true := Memory.hasEntry_iff.2 (Or.inl hfile)
  have hisdir : m.system.isDirectory root = .ok false := Memory.isDirectory_of_isFile hm hfile
  unfold checkRoot
  rw [if_pos hentry, hisdir]

theorem checkRoot_of_isDirectory (hdir : m.IsDirectory root) :
    checkRoot m.system root =
      match m.list root with
      | .error failure => .error (.failed failure)
      | .ok _ => .ok () := by
  have hentry : m.system.hasEntry root = true := Memory.hasEntry_iff.2 (Or.inr hdir)
  have hisdir : m.system.isDirectory root = .ok true := Memory.isDirectory_of_isDirectory hdir
  unfold checkRoot
  rw [if_pos hentry, hisdir]
  rfl

theorem checkRoot_of_unreadable (hdir : m.IsDirectory root) (hread : m.isUnreadable root = true) :
    checkRoot m.system root = .error (.failed ⟨.list, root, .forbidden⟩) := by
  rw [checkRoot_of_isDirectory hdir, Memory.list_of_unreadable hread]

theorem checkRoot_of_readable (hdir : m.IsDirectory root) (hread : m.isUnreadable root = false) :
    checkRoot m.system root = .ok () := by
  rw [checkRoot_of_isDirectory hdir, Memory.list_of_readable hdir hread]

theorem readable_of_checkRoot (hm : m.Apart) (h : checkRoot m.system root = .ok ()) :
    m.IsDirectory root ∧ m.isUnreadable root = false := by
  by_cases hfile : m.IsFile root
  · rw [checkRoot_of_isFile hm hfile] at h
    cases h
  · by_cases hdir : m.IsDirectory root
    · cases hread : m.isUnreadable root with
      | true =>
        rw [checkRoot_of_unreadable hdir hread] at h
        cases h
      | false => exact ⟨hdir, rfl⟩
    · rw [checkRoot_of_missing hfile hdir] at h
      cases h

theorem components_mem_sorted_walk_iff (hm : m.Apart) (htext : m.TextBelow root)
    (hread : m.isUnreadable root = false) :
    f.components ∈
        (sortPaths (walk m.system options root m.depth root).value).map Path.components ↔
      Finds m options root root f := by
  rw [((sortPaths_perm _).map Path.components).mem_iff, components_mem_walk_depth_iff hm htext]
  exact and_iff_right hread

theorem ascending_sorted_walk :
    Path.Ascending (sortPaths (walk m.system options root m.depth root).value) :=
  ascending_sortPaths (nodup_walk m.depth)

theorem discover_of_checkRoot_error {e : Error} (h : checkRoot m.system root = .error e) :
    discover m.system options root = .error e := by
  unfold discover
  rw [h]

theorem discover_of_checkRoot_ok {walked : Logged (List Path)}
    (h : checkRoot m.system root = .ok ())
    (hwalked : walk m.system options root m.depth root = walked) :
    discover m.system options root =
      .ok ⟨sortPaths walked.value,
        walked.log ++ [foundRecord root (sortPaths walked.value).length]⟩ := by
  subst hwalked
  unfold discover
  rw [h]
  rfl

theorem discover_of_walk_nil (hdir : m.IsDirectory root) (hread : m.isUnreadable root = false)
    (hwalk : (walk m.system options root m.depth root).value = []) :
    (discover m.system options root).map (·.value) = .ok [] := by
  rw [discover_of_checkRoot_ok (checkRoot_of_readable hdir hread) rfl, hwalk]
  exact congrArg Except.ok List.mergeSort_nil

theorem discover_exact (hm : m.Apart) (options : Options) (root : Path) :
    (discover m.system options root = .error (.rootNotFound root) ↔
        ¬ m.IsFile root ∧ ¬ m.IsDirectory root) ∧
      (discover m.system options root = .error (.rootNotDirectory root) ↔ m.IsFile root) ∧
      (∀ failure, discover m.system options root = .error (.failed failure) ↔
        m.IsDirectory root ∧ m.isUnreadable root = true ∧
          failure = ⟨.list, root, .forbidden⟩) ∧
      (m.IsDirectory root → m.isUnreadable root = false →
        ∃ found, discover m.system options root = .ok found ∧ Path.Ascending found.value ∧
          (m.TextBelow root → ∀ f : Path, f.components ∈ found.value.map Path.components ↔
            Finds m options root root f)) := by
  by_cases hfile : m.IsFile root
  · have hdir := hm.not_isDirectory hfile
    rw [discover_of_checkRoot_error (checkRoot_of_isFile hm hfile)]
    simp [hfile, hdir]
  · by_cases hdir : m.IsDirectory root
    · cases hread : m.isUnreadable root with
      | true =>
        rw [discover_of_checkRoot_error (checkRoot_of_unreadable hdir hread)]
        simp [hfile, hdir, eq_comm]
      | false =>
        rw [discover_of_checkRoot_ok (checkRoot_of_readable hdir hread) rfl]
        refine ⟨by simp [hdir], by simp [hfile], by simp, fun _ _ => ⟨_, rfl, ?_, fun htext f => ?_⟩⟩
        · exact ascending_sorted_walk
        · exact components_mem_sorted_walk_iff hm htext hread
    · rw [discover_of_checkRoot_error (checkRoot_of_missing hfile hdir)]
      simp [hfile, hdir]

def sampleTree : Memory where
  files := [
    (⟨"/p/.git/config.json"⟩, ""), (⟨"/p/node_modules/x/b.ts"⟩, ""), (⟨"/p/private/c.ts"⟩, ""),
    (⟨"/p/src/a.ts"⟩, ""), (⟨"/p/src/tmp/e.ts"⟩, ""), (⟨"/p/tmp/d.ts"⟩, "")]
  unreadable := [⟨"/p/private"⟩]

theorem discover_exact_sampleTree :
    sampleTree.Apart ∧ sampleTree.TextBelow ⟨"/p"⟩ ∧
      ∃ found, discover sampleTree.system .default ⟨"/p"⟩ = .ok found ∧
        Path.Ascending found.value ∧ ∀ f : Path, f.components ∈ found.value.map Path.components ↔
          Finds sampleTree .default ⟨"/p"⟩ ⟨"/p"⟩ f := by
  have hm : sampleTree.Apart := by decide +kernel
  have htext : sampleTree.TextBelow ⟨"/p"⟩ := by decide +kernel
  obtain ⟨found, hfound, hascending, hfinds⟩ :=
    (discover_exact hm .default ⟨"/p"⟩).2.2.2 (by decide +kernel) (by decide +kernel)
  exact ⟨hm, htext, found, hfound, hascending, hfinds htext⟩

def foreignFile : Path := ⟨Text.Utf8.encode "/p/d" ++ 0xff :: Text.Utf8.encode "/a.ts"⟩

def foreignTree : Memory := ⟨[(foreignFile, "x")], []⟩

def generatedTree : Memory := ⟨[(⟨"/p/generated/a.ts"⟩, "x")], []⟩

def generatedOptions : Options := ⟨defaultMaxFileSize, ["Generated"]⟩

theorem finds_below_slash_p {m : Memory} {s f : Path} {c d : Component}
    (hs : s.components = [.root, .normal "p"] ++ [c]) (hf : f.components = s.components ++ [d])
    (hread : m.isUnreadable s = false) (hfile : m.IsFile f) (hanalyzable : isAnalyzable f = true)
    (hname : isSkippedDirectory [] true (Files.Memory.componentName c) = false) :
    Finds m .default ⟨"/p"⟩ ⟨"/p"⟩ f := by
  have hskip : ¬ Skipped .default ⟨"/p"⟩ s := by
    rw [skipped_iff_of_concat hs, Bool.not_eq_true]
    exact hname
  exact (finds_below_iff hs ⟨d, [], hf⟩).2
    ⟨hskip, hread, (finds_child_iff hf).2 ⟨hfile, hanalyzable⟩⟩

theorem discover_misses :
    (foreignTree.Apart ∧ foreignTree.Normal ∧ foreignTree.IsDirectory ⟨"/p"⟩ ∧
      Finds foreignTree .default ⟨"/p"⟩ ⟨"/p"⟩ foreignFile ∧
      (discover foreignTree.system .default ⟨"/p"⟩).map (·.value) = .ok []) ∧
    (generatedTree.Apart ∧ generatedTree.Normal ∧ generatedTree.TextBelow ⟨"/p"⟩ ∧
      generatedTree.IsDirectory ⟨"/p"⟩ ∧
      Finds generatedTree .default ⟨"/p"⟩ ⟨"/p"⟩ ⟨"/p/generated/a.ts"⟩ ∧
      "generated" ∉ generatedOptions.extraSkipped ∧
      (discover generatedTree.system generatedOptions ⟨"/p"⟩).map (·.value) = .ok []) := by
  refine ⟨⟨by decide, by decide, by decide, ?_, ?_⟩,
    by decide, by decide, by decide, by decide, ?_, by decide, ?_⟩
  · exact finds_below_slash_p (s := ⟨Text.Utf8.encode "/p/d" ++ [0xff]⟩) (c := .normal [100, 0xff])
      (d := .normal "a.ts") (by decide) (by decide) rfl (by decide) (by decide) (by decide)
  · exact discover_of_walk_nil (by decide) rfl (by decide)
  · exact finds_below_slash_p (s := ⟨"/p/generated"⟩) (c := .normal "generated")
      (d := .normal "a.ts") (by decide) (by decide) rfl (by decide) (by decide) (by decide)
  · exact discover_of_walk_nil (by decide) rfl (by decide)

end SourceDigest.Scan
