import SourceDigest.Proofs.Scan.Discovery
import SourceDigest.Proofs.Scan.Entry

namespace SourceDigest

namespace Scan

open Files (Memory System)

variable {m : Memory} {options : Options} {root f : Path}

def covers (root : Path) (entries : List Path) (f : Path) : Bool :=
  entries.any fun e => f.startsWith (resolveEntry root e)

theorem covers_cons (root e : Path) (entries : List Path) (f : Path) :
    covers root (e :: entries) f =
      (f.startsWith (resolveEntry root e) || covers root entries f) := rfl

theorem filesOfEntries_cons (system : System) (e : Path) (entries found : List Path) :
    filesOfEntries system options root (e :: entries) found =
      match filesOfEntry system options root (resolveEntry root e) with
      | .error e => .error e
      | .ok files =>
        match filesOfEntries system options root entries (insertPaths files.value found) with
        | .error e => .error e
        | .ok rest => .ok ⟨rest.value, files.log ++ rest.log⟩ := by
  rfl

theorem ascending_filesOfEntries {system : System} {entries found : List Path}
    {files : Logged (List Path)} (hfound : Path.Ascending found)
    (h : filesOfEntries system options root entries found = .ok files) :
    Path.Ascending files.value := by
  induction entries generalizing found files with
  | nil =>
    cases h
    exact hfound
  | cons e entries ih =>
    rw [filesOfEntries_cons] at h
    split at h
    · cases h
    · split at h
      · cases h
      · rename_i rest hrest
        have hascending := ih (ascending_insertPaths hfound) hrest
        cases h
        exact hascending

theorem filesOfEntries_exact (hm : m.Apart) (hn : m.Normal) (htext : m.TextBelow root)
    (hdir : m.IsDirectory root) (hroot : m.isUnreadable root = false) (hread : m.ListableBelow root)
    {entries : List Path} (hentries : ∀ e ∈ entries, Inside m options root (resolveEntry root e))
    (found : List Path) :
    ∃ files, filesOfEntries m.system options root entries found = .ok files ∧
      ∀ f : Path, f.components ∈ files.value.map Path.components ↔
        f.components ∈ found.map Path.components ∨
          Finds m options root root f ∧ covers root entries f = true := by
  induction entries generalizing found with
  | nil => exact ⟨⟨found, []⟩, rfl, fun f => by simp [covers]⟩
  | cons e entries ih =>
    obtain ⟨new, hnew, hmem⟩ :=
      filesOfEntry_exact hm hn htext hdir hroot hread (hentries e List.mem_cons_self)
    obtain ⟨files, hfiles, hrest⟩ :=
      ih (fun e' he' => hentries e' (List.mem_cons_of_mem e he')) (insertPaths new.value found)
    refine ⟨⟨files.value, new.log ++ files.log⟩, ?_, fun f => ?_⟩
    · rw [filesOfEntries_cons, hnew]
      simp only
      rw [hfiles]
    · rw [hrest, components_mem_insertPaths, hmem, or_assoc, or_left_comm, ← and_or_left,
        covers_cons, Bool.or_eq_true]

def paths (answer : Except Error (Logged (List Path))) : Except Error (List (List Component)) :=
  answer.map fun files => files.value.map Path.components

theorem discoverEntries_of_checkRoot_error {e : Error} {entries : List Path}
    (h : checkRoot m.system root = .error e) :
    discoverEntries m.system options root entries = .error e := by
  unfold discoverEntries
  rw [h]

theorem discoverEntries_of_checkRoot_ok {system : System} {entries : List Path}
    {files : Logged (List Path)} (h : checkRoot system root = .ok ())
    (hfiles : filesOfEntries system options root entries [] = .ok files) :
    discoverEntries system options root entries =
      .ok ⟨files.value, files.log ++ [foundRecord root files.value.length]⟩ := by
  unfold discoverEntries
  rw [h]
  simp only
  rw [hfiles]

theorem startsWith_congr {f' : Path} (h : f'.components = f.components) (base : Path) :
    f'.startsWith base = f.startsWith base := by
  unfold Path.startsWith
  rw [h]

theorem covers_congr {f' : Path} (h : f'.components = f.components) (entries : List Path) :
    covers root entries f' = covers root entries f := by
  unfold covers
  simp only [startsWith_congr h]

theorem components_mem_filter_covers_iff {found entries : List Path} :
    f.components ∈ (found.filter (covers root entries)).map Path.components ↔
      f.components ∈ found.map Path.components ∧ covers root entries f = true := by
  constructor
  · intro hmem
    obtain ⟨p, hp, hpf⟩ := List.mem_map.1 hmem
    obtain ⟨hfound, hcovers⟩ := List.mem_filter.1 hp
    exact ⟨List.mem_map.2 ⟨p, hfound, hpf⟩, (covers_congr hpf.symm entries).trans hcovers⟩
  · rintro ⟨hmem, hcovers⟩
    obtain ⟨p, hp, hpf⟩ := List.mem_map.1 hmem
    exact List.mem_map.2 ⟨p, List.mem_filter.2 ⟨hp, (covers_congr hpf entries).trans hcovers⟩, hpf⟩

theorem ascending_discoverEntries {system : System} {entries : List Path}
    {files : Logged (List Path)} (h : discoverEntries system options root entries = .ok files) :
    Path.Ascending files.value := by
  unfold discoverEntries at h
  split at h
  · cases h
  · split at h
    · cases h
    · rename_i found hfound
      have hascending := ascending_filesOfEntries List.Pairwise.nil hfound
      cases h
      exact hascending

theorem paths_discoverEntries (hm : m.Apart) (hn : m.Normal) (htext : m.TextBelow root)
    (hread : m.ListableBelow root) {entries : List Path}
    (hentries : ∀ e ∈ entries, Inside m options root (resolveEntry root e)) :
    paths (discoverEntries m.system options root entries) =
      (discover m.system options root).map fun found =>
        (found.value.filter (covers root entries)).map Path.components := by
  cases hroot : checkRoot m.system root with
  | error e =>
    rw [discoverEntries_of_checkRoot_error hroot, discover_of_checkRoot_error hroot]
    rfl
  | ok _ =>
    obtain ⟨hdir, hreadable⟩ := readable_of_checkRoot hm hroot
    obtain ⟨files, hfiles, hmem⟩ := filesOfEntries_exact hm hn htext hdir hreadable hread hentries []
    have hascending := ascending_filesOfEntries List.Pairwise.nil hfiles
    have hall : Path.Ascending (sortPaths (walk m.system options root m.depth root).value) :=
      ascending_sorted_walk
    rw [discoverEntries_of_checkRoot_ok hroot hfiles, discover_of_checkRoot_ok hroot rfl]
    refine congrArg Except.ok
      (hascending.components_eq (hall.sublist List.filter_sublist) fun f => ?_)
    rw [hmem, components_mem_filter_covers_iff, components_mem_sorted_walk_iff hm htext hreadable]
    simp

theorem isBelowSkipped_of_components_eq {dir : Path} (h : dir.components = root.components) :
    isBelowSkipped options root dir = false := by
  unfold isBelowSkipped
  rw [Path.stripBase?_eq_some_iff.2 (h.trans (List.append_nil root.components).symm)]

theorem isBelowSkipped_self : isBelowSkipped options root root = false :=
  isBelowSkipped_of_components_eq rfl

theorem discoverEntries_root (hm : m.Apart) (hn : m.Normal) (habsolute : root.isAbsolute = true) :
    discoverEntries m.system options root [root] = discover m.system options root := by
  cases hroot : checkRoot m.system root with
  | error e => rw [discoverEntries_of_checkRoot_error hroot, discover_of_checkRoot_error hroot]
  | ok _ =>
    obtain ⟨hdir, -⟩ := readable_of_checkRoot hm hroot
    have hinside : Inside m options root root := by
      refine ⟨Or.inr hdir, Path.startsWith_refl root, fun hempty => ?_⟩
      simp [Path.isAbsolute, hempty] at habsolute
    have hentry := filesOfEntry_of_isDirectory hn hdir hinside
    rw [isBelowSkipped_self, if_neg Bool.false_ne_true] at hentry
    have hfiles : filesOfEntries m.system options root [root] [] =
        .ok ⟨insertPaths (walk m.system options root m.depth root).value [],
          (walk m.system options root m.depth root).log ++ []⟩ := by
      rw [filesOfEntries_cons, resolveEntry, if_pos habsolute, hentry]
      rfl
    rw [discoverEntries_of_checkRoot_ok hroot hfiles, discover_of_checkRoot_ok hroot rfl,
      insertPaths_nil_eq_sortPaths (nodup_walk m.depth), List.append_nil]

theorem discoverEntries_exact (hm : m.Apart) (hn : m.Normal) (options : Options) (root : Path)
    (hread : m.ListableBelow root) :
    (m.TextBelow root →
      ∀ entries, (∀ e ∈ entries, Inside m options root (resolveEntry root e)) →
        paths (discoverEntries m.system options root entries) =
            (discover m.system options root).map (fun found =>
              (found.value.filter (covers root entries)).map Path.components) ∧
          ∀ files, discoverEntries m.system options root entries = .ok files →
            Path.Ascending files.value) ∧
      (root.isAbsolute = true →
        discoverEntries m.system options root [root] = discover m.system options root) ∧
      (m.TextBelow root →
        ∀ entries entries', (∀ e ∈ entries, Inside m options root (resolveEntry root e)) →
          (∀ e ∈ entries', Inside m options root (resolveEntry root e)) →
            (∀ f : Path, m.IsFile f → covers root entries f = covers root entries' f) →
              paths (discoverEntries m.system options root entries) =
                paths (discoverEntries m.system options root entries')) := by
  refine ⟨fun htext entries hentries => ⟨paths_discoverEntries hm hn htext hread hentries,
    fun files => ascending_discoverEntries⟩, discoverEntries_root hm hn, ?_⟩
  intro htext entries entries' hentries hentries' hcovers
  rw [paths_discoverEntries hm hn htext hread hentries,
    paths_discoverEntries hm hn htext hread hentries']
  cases hroot : checkRoot m.system root with
  | error e =>
    rw [discover_of_checkRoot_error hroot]
    rfl
  | ok _ =>
    obtain ⟨-, hreadable⟩ := readable_of_checkRoot hm hroot
    rw [discover_of_checkRoot_ok hroot rfl]
    refine congrArg (fun l => Except.ok (l.map Path.components)) (List.filter_congr fun f hf => ?_)
    have hfinds :=
      (components_mem_sorted_walk_iff hm htext hreadable).1 (List.mem_map_of_mem hf)
    exact hcovers f hfinds.file

def openTree : Memory := { sampleTree with unreadable := [⟨"/p/src/a.ts"⟩] }

theorem discoverEntries_exact_openTree :
    openTree.Apart ∧ openTree.Normal ∧ openTree.TextBelow ⟨"/p"⟩ ∧
      openTree.ListableBelow ⟨"/p"⟩ ∧
      (∀ e ∈ [⟨"src"⟩, ⟨"/p/src/tmp/e.ts"⟩],
        Inside openTree .default ⟨"/p"⟩ (resolveEntry ⟨"/p"⟩ e)) ∧
      paths (discoverEntries openTree.system .default ⟨"/p"⟩ [⟨"src"⟩, ⟨"/p/src/tmp/e.ts"⟩]) =
        (discover openTree.system .default ⟨"/p"⟩).map (fun found =>
          (found.value.filter (covers ⟨"/p"⟩ [⟨"src"⟩, ⟨"/p/src/tmp/e.ts"⟩])).map
            Path.components) ∧
      discoverEntries openTree.system .default ⟨"/p"⟩ [⟨"/p"⟩] =
        discover openTree.system .default ⟨"/p"⟩ := by
  have hm : openTree.Apart := by decide
  have hn : openTree.Normal := by decide
  have htext : openTree.TextBelow ⟨"/p"⟩ := by decide
  have hread : openTree.ListableBelow ⟨"/p"⟩ := by
    intro d _ hdir
    rw [← Bool.not_eq_true]
    intro hunreadable
    have hfile : openTree.IsFile ⟨"/p/src/a.ts"⟩ := by decide
    obtain ⟨p, hp, hsame⟩ := List.any_eq_true.1 hunreadable
    cases List.mem_singleton.1 hp
    exact hm.not_isDirectory (hfile.congr (Path.same_iff.1 hsame).symm) hdir
  have hentries : ∀ e ∈ [⟨"src"⟩, ⟨"/p/src/tmp/e.ts"⟩],
      Inside openTree .default ⟨"/p"⟩ (resolveEntry ⟨"/p"⟩ e) := by
    intro e he
    refine ⟨?_, ?_, fun h => absurd h (by decide)⟩
    · revert e
      decide
    · revert e
      decide
  have hexact := discoverEntries_exact hm hn .default ⟨"/p"⟩ hread
  exact ⟨hm, hn, htext, hread, hentries, (hexact.1 htext _ hentries).1, hexact.2.1 (by decide)⟩

def slashTree : Memory := ⟨[(⟨"/p/a.ts"⟩, "x")], []⟩

def slashOptions : Options := ⟨defaultMaxFileSize, ["/"]⟩

theorem discoverEntries_finds_more :
    (foreignTree.Apart ∧ foreignTree.Normal ∧ foreignTree.ListableBelow ⟨"/p"⟩ ∧
      (⟨"/p"⟩ : Path).climbs = false ∧
      Inside foreignTree .default ⟨"/p"⟩ (resolveEntry ⟨"/p"⟩ ⟨[100, 0xff]⟩) ∧
      (discover foreignTree.system .default ⟨"/p"⟩).map (·.value) = .ok [] ∧
      (discoverEntries foreignTree.system .default ⟨"/p"⟩ [⟨[100, 0xff]⟩]).map (·.value) =
        .ok [foreignFile]) ∧
    (slashTree.Apart ∧ slashTree.Normal ∧ slashTree.TextBelow ⟨""⟩ ∧
      slashTree.ListableBelow ⟨""⟩ ∧ (⟨""⟩ : Path).climbs = false ∧
      slashTree.IsDirectory (resolveEntry ⟨""⟩ ⟨"/p"⟩) ∧
      (resolveEntry ⟨""⟩ ⟨"/p"⟩).startsWith ⟨""⟩ = true ∧
      (discover slashTree.system slashOptions ⟨""⟩).map (·.value) = .ok [] ∧
      (discoverEntries slashTree.system slashOptions ⟨""⟩ [⟨"/p"⟩]).map (·.value) =
        .ok [⟨"/p/a.ts"⟩]) := by
  refine ⟨⟨by decide, by decide, fun _ _ _ => rfl, by decide, ⟨by decide, by decide, ?_⟩, ?_, rfl⟩,
    by decide, by decide, by decide, fun _ _ _ => rfl, by decide, by decide, by decide, ?_, rfl⟩
  · exact fun h => absurd h (by decide)
  · exact discover_of_walk_nil (by decide) rfl (by decide)
  · exact discover_of_walk_nil (by decide) rfl (by decide)

end Scan

end SourceDigest
