import SourceDigest.Proofs.Path.Relative
import SourceDigest.Proofs.Scan.Entries

namespace SourceDigest

namespace Scan

open Files (Memory System)
open Files.Memory (componentName)

variable {m : Memory} {options : Options} {root dir path p : Path}

theorem not_parent_of_isAnalyzable {c : Component} (h : p.components = dir.components ++ [c])
    (hp : isAnalyzable p = true) : c ≠ .parent := by
  obtain ⟨init, n, hn⟩ := exists_fileName_of_isAnalyzable hp
  rw [h] at hn
  obtain ⟨-, hc⟩ := List.append_inj' hn rfl
  obtain rfl := (List.cons.inj hc).1
  exact Component.noConfusion

theorem not_parent_of_not_skipped {c : Component} {extra : List String} {atRoot : Bool}
    (h : isSkippedDirectory extra atRoot (componentName c) = false) : c ≠ .parent := by
  rintro rfl
  have hdots : isSkippedDirectory extra atRoot (componentName .parent) = true :=
    isSkippedDirectory_of_hidden extra atRoot ['.']
  rw [hdots] at h
  cases h

theorem exists_components_of_mem_walk (depth : Nat)
    (h : p ∈ (walk m.system options root depth dir).value) :
    ∃ c cs, p.components = dir.components ++ c :: cs ∧
      ∀ d ∈ c :: cs, d ≠ .parent ∧ d.IsText := by
  induction depth generalizing dir with
  | zero => cases h
  | succ depth ih =>
    cases hlist : m.list dir with
    | error failure =>
      rw [value_walk_of_error (depth + 1) hlist] at h
      cases h
    | ok entries =>
      rw [value_walk_of_list depth hlist] at h
      rcases List.mem_append.1 h with hfile | hbelow
      · obtain ⟨e, he, -, hanalyzable, rfl⟩ := mem_filesOf.1 hfile
        obtain ⟨c, htext, -, hpath⟩ := (Memory.lists_of_mem_list hlist he).exists_component
        exact ⟨c, [], hpath, by simpa using ⟨not_parent_of_isAnalyzable hpath hanalyzable, htext⟩⟩
      · obtain ⟨d, hd, hp⟩ := List.mem_flatMap.1 hbelow
        obtain ⟨e, he, -, hname, rfl⟩ := mem_directoriesOf.1 hd
        obtain ⟨c, htext, hc, hpath⟩ := (Memory.lists_of_mem_list hlist he).exists_component
        rw [hc] at hname
        obtain ⟨b, bs, hbelow, heach⟩ := ih hp
        refine ⟨c, b :: bs, by rw [hbelow, hpath, List.append_assoc]; rfl, fun d hd => ?_⟩
        rcases List.mem_cons.1 hd with rfl | hd
        · exact ⟨not_parent_of_not_skipped hname, htext⟩
        · exact heach d hd

theorem descends_of_mem_walk (depth : Nat) (h : p ∈ (walk m.system options root depth dir).value) :
    p.Descends dir := by
  obtain ⟨c, cs, hp, heach⟩ := exists_components_of_mem_walk depth h
  exact ⟨c, cs, hp, fun hparent => (heach .parent hparent).1 rfl⟩

theorem textBelow_of_mem_walk (depth : Nat)
    (h : p ∈ (walk m.system options root depth dir).value) : p.TextBelow dir := by
  obtain ⟨c, cs, hp, heach⟩ := exists_components_of_mem_walk depth h
  exact (Path.textBelow_iff hp).2 fun d hd => (heach d hd).2

theorem isDirectory_of_checkRoot {u : Unit} (h : checkRoot m.system root = .ok u) :
    m.IsDirectory root := by
  unfold checkRoot at h
  split at h
  · split at h
    · cases h
    · cases h
    · rename_i hdir
      exact Memory.isDirectory_eq_true_iff.1 hdir
  · cases h

theorem descends_of_mem_filesOfEntry {files : Logged (List Path)} (hroot : m.IsDirectory root)
    (h : filesOfEntry m.system options root path = .ok files) (hp : p ∈ files.value) :
    p.Descends root := by
  unfold filesOfEntry at h
  split at h
  · cases h
  · rename_i hinside
    simp only [Bool.or_eq_true, Bool.not_eq_true', not_or, Bool.not_eq_true, Bool.not_eq_false]
      at hinside
    obtain ⟨cs, hcs⟩ := List.isPrefixOf_iff_prefix.1 hinside.2
    have hparent : Component.parent ∉ cs := by
      intro hmem
      have hclimbs : path.climbs = true :=
        List.contains_iff_mem.2 (hcs ▸ List.mem_append_right _ hmem)
      rw [hinside.1] at hclimbs
      cases hclimbs
    split at h
    · cases h
    · split at h
      · cases h
        cases hp
      · cases h
        exact (descends_of_mem_walk m.depth hp).trans_append hcs.symm hparent
    · rename_i hnot
      split at h
      · cases h
        cases hp
      · cases h
        obtain rfl := List.mem_singleton.1 hp
        cases cs with
        | cons c cs => exact ⟨c, cs, hcs.symm, hparent⟩
        | nil =>
          -- An entry that is the root is a directory, as the root is.
          rw [List.append_nil] at hcs
          obtain ⟨f, hf, hbelow⟩ := hroot
          have hdir : m.system.isDirectory p = .ok true :=
            Memory.isDirectory_eq_true_iff.2 ⟨f, hf, hbelow.congr rfl hcs.symm⟩
          rw [hdir] at hnot
          cases hnot

theorem startsWith_of_mem_filesOfEntry {files : Logged (List Path)}
    (h : filesOfEntry m.system options root path = .ok files) (hp : p ∈ files.value) :
    p.startsWith path = true := by
  unfold filesOfEntry at h
  split at h
  · cases h
  · split at h
    · cases h
    · split at h
      · cases h
        cases hp
      · cases h
        obtain ⟨c, cs, hpath, -⟩ := descends_of_mem_walk m.depth hp
        exact Path.startsWith_iff.2 (Or.inr ⟨c, cs, hpath⟩)
    · split at h
      · cases h
        cases hp
      · cases h
        obtain rfl := List.mem_singleton.1 hp
        exact Path.startsWith_refl p

theorem mem_of_mem_filesOfEntries {system : System} {entries found : List Path}
    {files : Logged (List Path)}
    (h : filesOfEntries system options root entries found = .ok files) (hp : p ∈ files.value) :
    p ∈ found ∨ ∃ e ∈ entries, ∃ new,
      filesOfEntry system options root (resolveEntry root e) = .ok new ∧ p ∈ new.value := by
  induction entries generalizing found files with
  | nil =>
    cases h
    exact Or.inl hp
  | cons e entries ih =>
    rw [filesOfEntries_cons] at h
    split at h
    · cases h
    · rename_i new hnew
      split at h
      · cases h
      · rename_i rest hrest
        cases h
        rcases ih hrest hp with hfound | ⟨e', he', new', hnew', hp'⟩
        · rcases mem_of_mem_insertPaths hfound with hp' | hfound
          · exact Or.inr ⟨e, List.mem_cons_self, new, hnew, hp'⟩
          · exact Or.inl hfound
        · exact Or.inr ⟨e', List.mem_cons_of_mem e he', new', hnew', hp'⟩

theorem mem_walk_of_mem_discover {found : Logged (List Path)}
    (h : discover m.system options root = .ok found) (hp : p ∈ found.value) :
    p ∈ (walk m.system options root m.depth root).value := by
  unfold discover at h
  split at h
  · cases h
  · cases h
    exact (sortPaths_perm _).mem_iff.1 hp

theorem exists_entry_of_mem_discoverEntries {entries : List Path} {found : Logged (List Path)}
    (h : discoverEntries m.system options root entries = .ok found) (hp : p ∈ found.value) :
    m.IsDirectory root ∧ ∃ e ∈ entries, ∃ new,
      filesOfEntry m.system options root (resolveEntry root e) = .ok new ∧ p ∈ new.value := by
  unfold discoverEntries at h
  split at h
  · cases h
  · rename_i u hroot
    split at h
    · cases h
    · rename_i files hfiles
      cases h
      rcases mem_of_mem_filesOfEntries hfiles hp with hnil | hentry
      · cases hnil
      · exact ⟨isDirectory_of_checkRoot hroot, hentry⟩

theorem descends_of_mem_discoverEntries {entries : List Path} {found : Logged (List Path)}
    (h : discoverEntries m.system options root entries = .ok found) (hp : p ∈ found.value) :
    p.Descends root := by
  obtain ⟨hroot, e, -, new, hnew, hpnew⟩ := exists_entry_of_mem_discoverEntries h hp
  exact descends_of_mem_filesOfEntry hroot hnew hpnew

variable {system : System} {f : FileRecord}

theorem mem_describeFile_iff :
    f ∈ (describeFile system options root p).value ↔
      ∃ size, system.fileSize p = .ok size ∧ size ≤ options.maxFileSize ∧
        f = ⟨Path.relativeTo root p, size, none⟩ := by
  unfold describeFile
  cases system.fileSize p with
  | error failure => simp
  | ok size =>
    simp only [Except.ok.injEq, exists_eq_left']
    split
    · rename_i hlarge
      simp [UInt64.not_le.2 hlarge]
    · rename_i hfits
      simp [UInt64.not_lt.1 hfits]

theorem mem_describe_iff {paths : List Path} :
    f ∈ (describe system options root paths).value ↔
      ∃ p ∈ paths, ∃ size, system.fileSize p = .ok size ∧ size ≤ options.maxFileSize ∧
        f = ⟨Path.relativeTo root p, size, none⟩ := by
  induction paths with
  | nil => simp [describe]
  | cons p paths ih =>
    rw [describe]
    simp only [List.mem_append, mem_describeFile_iff, ih, List.mem_cons, exists_eq_or_imp]

end Scan

end SourceDigest
