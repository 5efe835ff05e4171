import SourceDigest.Proofs.Scan.Walk
import SourceDigest.Proofs.Text.Lowering

namespace SourceDigest

namespace Scan

open Files (Memory)
open Files.Memory (componentName)
open Text.Utf8 (decodeLossy)

variable {m : Memory} {options : Options} {root path dir f : Path} {cs : List Component}

def Named (options : Options) (c : Component) : Prop :=
  (∃ n, c = .normal n) ∨ c = .root ∧ "/" ∉ options.extraSkipped

theorem eq_slash_of_equalIgnoringCase {e : String}
    (h : equalIgnoringCase e.toList "/".toList = true) : e = "/" := by
  obtain ⟨c, hc, hlower⟩ := List.map_eq_singleton_iff.1 (beq_iff_eq.1 h)
  exact String.toList_inj.1 (hc.trans (congrArg (fun c => [c])
    ((Text.toLower_eq_iff (by decide)).1 hlower)))

theorem isSkippedDirectory_slash {atRoot : Bool} (h : "/" ∉ options.extraSkipped) :
    isSkippedDirectory options.extraSkipped atRoot "/" = false := by
  rw [← Bool.not_eq_true, isSkippedDirectory_iff]
  rintro (hdot | hname | ⟨-, hname⟩ | ⟨e, he, hslash⟩)
  · exact absurd hdot (by decide)
  · exact absurd hname (by decide)
  · exact absurd hname (by decide)
  · exact h (eq_slash_of_equalIgnoringCase hslash ▸ he)

theorem any_name?_of_named {c : Component} (h : Named options c) (atRoot : Bool) :
    (c.name?.any fun n => isSkippedDirectory options.extraSkipped atRoot (decodeLossy n)) =
      isSkippedDirectory options.extraSkipped atRoot (componentName c) := by
  rcases h with ⟨n, rfl⟩ | ⟨rfl, hslash⟩
  · rfl
  · exact (isSkippedDirectory_slash hslash).symm

theorem exists_skipped_iff (h : dir.components = root.components ++ cs) :
    (∃ d : Path, d.Below root ∧ dir.startsWith d = true ∧ Skipped options root d) ↔
      ∃ before c after, cs = before ++ c :: after ∧
        isSkippedDirectory options.extraSkipped before.isEmpty (componentName c) = true := by
  have hempty (before : List Component) :
      decide (root.components ++ before = root.components) = before.isEmpty := by
    cases before <;> simp
  constructor
  · rintro ⟨d, ⟨a, as, hd⟩, hdir, hskip⟩
    obtain ⟨before, c, hac⟩ : ∃ before c, a :: as = before ++ [c] :=
      ⟨_, _, (List.dropLast_concat_getLast (List.cons_ne_nil a as)).symm⟩
    rw [hac, ← List.append_assoc] at hd
    obtain ⟨after, hafter⟩ := List.isPrefixOf_iff_prefix.1 hdir
    refine ⟨before, c, after, ?_, ?_⟩
    · rw [hd, h, List.append_assoc, List.append_assoc, List.append_cancel_left_eq] at hafter
      simpa using hafter.symm
    · rwa [skipped_iff_of_concat hd, hempty] at hskip
  · rintro ⟨before, c, after, rfl, hskip⟩
    have hsplit : dir.components = root.components ++ ((before ++ [c]) ++ after) := by
      rw [h, List.append_assoc]
      rfl
    obtain ⟨d, hd⟩ := Path.exists_components_eq hsplit
    refine ⟨d, ?_, ?_, ?_⟩
    · obtain ⟨b, bs, hb⟩ := List.exists_cons_of_ne_nil (List.concat_ne_nil c before)
      exact ⟨b, bs, by rw [hd]; simpa using hb⟩
    · exact List.isPrefixOf_iff_prefix.2 ⟨after, by rw [hd, hsplit, List.append_assoc]⟩
    · rw [← List.append_assoc] at hd
      rwa [skipped_iff_of_concat hd, hempty]

theorem isBelowSkipped_iff (h : dir.components = root.components ++ cs)
    (hnamed : ∀ c ∈ cs, Named options c) :
    isBelowSkipped options root dir = true ↔
      ∃ d : Path, d.Below root ∧ dir.startsWith d = true ∧ Skipped options root d := by
  rw [exists_skipped_iff h]
  unfold isBelowSkipped
  rw [Path.stripBase?_eq_some_iff.2 h]
  cases cs with
  | nil => simp
  | cons c rest =>
    simp only [Bool.or_eq_true, List.any_eq_true, any_name?_of_named (hnamed c List.mem_cons_self)]
    constructor
    · rintro (hskip | ⟨d, hd, hskip⟩)
      · exact ⟨[], c, rest, rfl, hskip⟩
      · rw [any_name?_of_named (hnamed d (List.mem_cons_of_mem c hd))] at hskip
        obtain ⟨before, after, rfl⟩ := List.append_of_mem hd
        exact ⟨c :: before, d, after, rfl, hskip⟩
    · rintro ⟨before, d, after, hsplit, hskip⟩
      cases before with
      | nil =>
        obtain ⟨rfl, -⟩ := List.cons.inj hsplit
        exact Or.inl hskip
      | cons b before =>
        obtain ⟨-, rfl⟩ := List.cons.inj hsplit
        have hd : d ∈ before ++ d :: after := List.mem_append_right _ List.mem_cons_self
        refine Or.inr ⟨d, hd, ?_⟩
        rwa [any_name?_of_named (hnamed d (List.mem_cons_of_mem c hd))]

structure Inside (m : Memory) (options : Options) (root path : Path) : Prop where
  present : m.IsFile path ∨ m.IsDirectory path
  within : path.startsWith root = true
  named : root.bytes = [] → path.isAbsolute = true → "/" ∉ options.extraSkipped

theorem Inside.exists_file (h : Inside m options root path) :
    ∃ f ∈ m.files, f.1.startsWith path = true := by
  rcases h.present with ⟨f, hf, hpath⟩ | ⟨f, hf, hbelow⟩
  · exact ⟨f, hf, Path.startsWith_iff.2 (Or.inl hpath)⟩
  · exact ⟨f, hf, Path.startsWith_iff.2 (Or.inr hbelow)⟩

theorem Inside.normal (h : Inside m options root path) (hn : m.Normal) :
    ∀ c ∈ path.components, c ≠ .current ∧ c ≠ .parent := by
  obtain ⟨f, hf, hpath⟩ := h.exists_file
  exact fun c hc => hn f hf c ((List.isPrefixOf_iff_prefix.1 hpath).subset hc)

theorem Inside.named_of_mem (h : Inside m options root path) (hn : m.Normal)
    (hpath : path.components = root.components ++ cs) : ∀ c ∈ cs, Named options c := by
  intro c hc
  have hmem : c ∈ path.components := hpath ▸ List.mem_append_right _ hc
  obtain ⟨hcurrent, hparent⟩ := h.normal hn c hmem
  cases c with
  | root =>
    have hroot := Path.components_eq_nil_iff.1 (Path.eq_nil_of_root_mem hpath hc)
    exact Or.inr ⟨rfl, h.named hroot (Path.isAbsolute_of_root_mem hmem)⟩
  | current => exact absurd rfl hcurrent
  | parent => exact absurd rfl hparent
  | normal n => exact Or.inl ⟨n, rfl⟩

theorem finds_from_iff (hread : m.ListableBelow root) (hpath : path.startsWith root = true)
    (hf : f.Below path) :
    Finds m options root root f ↔
      (¬ ∃ d : Path, d.Below root ∧ path.startsWith d = true ∧ Skipped options root d) ∧
        Finds m options root path f := by
  constructor
  · intro h
    refine ⟨?_, h.file, hf, h.analyzable, fun d hd => h.passes d (hd.of_startsWith hpath)⟩
    rintro ⟨d, hd, hpd, hskip⟩
    exact (h.passes d hd (hf.of_startsWith hpd)).1 hskip
  · rintro ⟨hnot, h⟩
    refine ⟨h.file, hf.of_startsWith hpath, h.analyzable, fun d hd hfd => ?_⟩
    rcases Path.startsWith_or_below hf hfd with hpd | hbelow
    · exact ⟨fun hskip => hnot ⟨d, hd, hpd, hskip⟩, hread d hd (h.file.isDirectory_of_below hfd)⟩
    · exact h.passes d hbelow hfd

theorem exists_fileName_of_isAnalyzable (h : isAnalyzable path = true) :
    ∃ init n, path.components = init ++ [.normal n] := by
  unfold isAnalyzable Path.fileName? at h
  cases hlast : path.components.getLast? with
  | none => simp [hlast] at h
  | some c =>
    obtain ⟨init, hinit⟩ := List.getLast?_eq_some_iff.1 hlast
    cases c with
    | normal n => exact ⟨init, n, hinit⟩
    | root => simp [hlast] at h
    | current => simp [hlast] at h
    | parent => simp [hlast] at h

theorem finds_entry_iff (hn : m.Normal) (hfile : m.IsFile path) (hbelow : path.Below root)
    (hread : m.ListableBelow root) (h : Inside m options root path) :
    Finds m options root root path ↔
      (path.parent?.any (isBelowSkipped options root) || !isAnalyzable path) = false := by
  rw [Bool.or_eq_false_iff, Bool.not_eq_false']
  by_cases hanalyzable : isAnalyzable path = true
  · obtain ⟨init, n, hinit⟩ := exists_fileName_of_isAnalyzable hanalyzable
    obtain ⟨dir, hparent, hdir⟩ := Path.exists_parent? hinit
    obtain ⟨cs, hcs⟩ : ∃ cs, init = root.components ++ cs := by
      obtain ⟨c, cs, hpath⟩ := hbelow
      refine ⟨(c :: cs).dropLast, ?_⟩
      rw [← List.dropLast_append_of_ne_nil (List.cons_ne_nil c cs), ← hpath, hinit,
        List.dropLast_concat]
    have hpath : path.components = root.components ++ (cs ++ [.normal n]) := by
      rw [hinit, hcs, List.append_assoc]
    have hnamed : ∀ c ∈ cs, Named options c :=
      fun c hc => h.named_of_mem hn hpath c (List.mem_append_left _ hc)
    have hskip := isBelowSkipped_iff (hdir.trans hcs) hnamed
    rw [hparent, Option.any_some, ← Bool.not_eq_true, hskip, and_iff_left hanalyzable]
    have hway {d : Path} : path.Below d ↔ dir.startsWith d = true :=
      Path.below_concat_iff (by rw [hinit, hdir])
    constructor
    · rintro hfinds ⟨d, hd, hdird, hskipped⟩
      exact (hfinds.passes d hd (hway.2 hdird)).1 hskipped
    · intro hnot
      refine ⟨hfile, hbelow, hanalyzable, fun d hd hpd => ?_⟩
      exact ⟨fun hskipped => hnot ⟨d, hd, hway.1 hpd, hskipped⟩,
        hread d hd (hfile.isDirectory_of_below hpd)⟩
  · exact iff_of_false (fun hfinds => hanalyzable hfinds.analyzable)
      fun hboth => hanalyzable hboth.2

theorem not_climbs (hn : m.Normal) (h : Inside m options root path) : path.climbs = false := by
  rw [← Bool.not_eq_true]
  intro hclimbs
  exact (h.normal hn .parent (List.contains_iff_mem.1 hclimbs)).2 rfl

theorem filesOfEntry_of_isDirectory (hn : m.Normal) (hdir : m.IsDirectory path)
    (h : Inside m options root path) :
    filesOfEntry m.system options root path =
      .ok (if isBelowSkipped options root path then ⟨[], []⟩
        else walk m.system options root m.depth path) := by
  have hisdir : m.system.isDirectory path = .ok true := Memory.isDirectory_of_isDirectory hdir
  unfold filesOfEntry
  rw [if_neg (by simp [not_climbs hn h, h.within]), hisdir]
  exact (apply_ite Except.ok _ _ _).symm

theorem filesOfEntry_of_isFile (hm : m.Apart) (hn : m.Normal) (hfile : m.IsFile path)
    (h : Inside m options root path) :
    filesOfEntry m.system options root path =
      .ok (if path.parent?.any (isBelowSkipped options root) || !isAnalyzable path then ⟨[], []⟩
        else ⟨[path], []⟩) := by
  have hisdir : m.system.isDirectory path = .ok false := Memory.isDirectory_of_isFile hm hfile
  unfold filesOfEntry
  rw [if_neg (by simp [not_climbs hn h, h.within]), hisdir]
  exact (apply_ite Except.ok _ _ _).symm

theorem finds_startsWith_file_iff (hm : m.Apart) (hfile : m.IsFile path) :
    Finds m options root root f ∧ f.startsWith path = true ↔
      f.components = path.components ∧ Finds m options root root path := by
  constructor
  · rintro ⟨hfinds, hstarts⟩
    rcases Path.startsWith_iff.1 hstarts with he | hbelow
    · exact ⟨he, hfinds.congr he.symm rfl⟩
    · exact absurd (hfinds.file.isDirectory_of_below hbelow) (hm.not_isDirectory hfile)
  · rintro ⟨he, hfinds⟩
    exact ⟨hfinds.congr he rfl, Path.startsWith_iff.2 (Or.inl he)⟩

theorem finds_startsWith_directory_iff (hm : m.Apart) (hn : m.Normal)
    (hread : m.ListableBelow root) (hdir : m.IsDirectory path) (h : Inside m options root path) :
    Finds m options root root f ∧ f.startsWith path = true ↔
      isBelowSkipped options root path = false ∧ Finds m options root path f := by
  obtain ⟨cs, hcs⟩ := List.isPrefixOf_iff_prefix.1 h.within
  rw [← Bool.not_eq_true, isBelowSkipped_iff hcs.symm (h.named_of_mem hn hcs.symm)]
  constructor
  · rintro ⟨hfinds, hstarts⟩
    rcases Path.startsWith_iff.1 hstarts with he | hbelow
    · exact absurd hdir (hm.not_isDirectory (hfinds.file.congr he.symm))
    · exact (finds_from_iff hread h.within hbelow).1 hfinds
  · rintro ⟨hnot, hfinds⟩
    exact ⟨(finds_from_iff hread h.within hfinds.below).2 ⟨hnot, hfinds⟩,
      Path.startsWith_iff.2 (Or.inr hfinds.below)⟩

theorem filesOfEntry_exact (hm : m.Apart) (hn : m.Normal) (htext : m.TextBelow root)
    (hdir : m.IsDirectory root) (hroot : m.isUnreadable root = false) (hread : m.ListableBelow root)
    (h : Inside m options root path) :
    ∃ files, filesOfEntry m.system options root path = .ok files ∧
      ∀ f : Path, f.components ∈ files.value.map Path.components ↔
        Finds m options root root f ∧ f.startsWith path = true := by
  rcases h.present with hfile | hpath
  · have hbelow : path.Below root := by
      rcases Path.startsWith_iff.1 h.within with he | hbelow
      · exact absurd hdir (hm.not_isDirectory (hfile.congr he.symm))
      · exact hbelow
    refine ⟨_, filesOfEntry_of_isFile hm hn hfile h, fun f => ?_⟩
    rw [finds_startsWith_file_iff hm hfile, finds_entry_iff hn hfile hbelow hread h]
    cases path.parent?.any (isBelowSkipped options root) || !isAnalyzable path <;> simp
  · have hreadable : m.isUnreadable path = false := by
      rcases Path.startsWith_iff.1 h.within with he | hbelow
      · exact (Memory.isUnreadable_congr he).trans hroot
      · exact hread path hbelow hpath
    refine ⟨_, filesOfEntry_of_isDirectory hn hpath h, fun f => ?_⟩
    rw [finds_startsWith_directory_iff hm hn hread hpath h]
    cases isBelowSkipped options root path with
    | true => simp
    | false =>
      rw [if_neg Bool.false_ne_true, components_mem_walk_depth_iff hm (htext.of_startsWith h.within)]
      simp [hreadable]

end Scan

end SourceDigest
