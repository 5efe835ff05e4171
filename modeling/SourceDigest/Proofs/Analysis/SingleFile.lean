import SourceDigest.Proofs.Analysis.Preference
import SourceDigest.Proofs.Analysis.Verdict

namespace SourceDigest

namespace Path

def isNested (p : Path) : Bool :=
  !p.isAbsolute && decide (1 < (p.components.filter (· != .current)).length)

variable {p dir : Path} {n : List UInt8}

theorem components_of_fileName? (h : p.fileName? = some n) :
    ∃ cs, p.components = cs ++ [.normal n] := by
  unfold fileName? at h
  split at h
  · rename_i hlast
    cases h
    exact List.getLast?_eq_some_iff.1 hlast
  · cases h

theorem components_of_parent? (h : p.fileName? = some n) (hparent : p.parent? = some dir) :
    p.components = dir.components ++ [.normal n] := by
  obtain ⟨cs, hcs⟩ := components_of_fileName? h
  obtain ⟨dir', hdir', rfl⟩ := exists_parent? hcs
  cases hparent.symm.trans hdir'
  exact hcs

theorem isNested_iff (hp : p.components = dir.components ++ [.normal n]) :
    p.isNested = true ↔
      p.isAbsolute = false ∧ dir.components.filter (· != .current) ≠ [] := by
  have hlength : (p.components.filter (· != .current)).length =
      (dir.components.filter (· != .current)).length + 1 := by
    rw [hp, List.filter_append, List.length_append]
    rfl
  unfold isNested
  rw [hlength, Bool.and_eq_true, Bool.not_eq_true', decide_eq_true_iff, ← List.length_pos_iff]
  exact and_congr_right fun _ => Nat.succ_lt_succ_iff

theorem parent_ne_empty_of_nested (hp : p.components = dir.components ++ [.normal n])
    (h : p.isNested = true) : dir.bytes ≠ [] := by
  intro hempty
  obtain ⟨-, hdir⟩ := (isNested_iff hp).1 h
  rw [components_eq_nil_iff.2 hempty] at hdir
  exact hdir rfl

theorem components_resolveEntry_of_nested (hp : p.components = dir.components ++ [.normal n])
    (h : p.isNested = true) :
    (Scan.resolveEntry dir p).components =
      dir.components ++ p.components.filter (· != .current) := by
  obtain ⟨habs, -⟩ := (isNested_iff hp).1 h
  unfold Scan.resolveEntry
  rw [habs, if_neg Bool.false_ne_true]
  exact components_join_relative habs (parent_ne_empty_of_nested hp h)

theorem components_resolveEntry_of_not_nested (hp : p.components = dir.components ++ [.normal n])
    (h : p.isNested = false) : (Scan.resolveEntry dir p).components = p.components := by
  unfold Scan.resolveEntry
  cases habs : p.isAbsolute with
  | true => rfl
  | false =>
    have hdots : dir.components.filter (· != .current) = [] := by
      by_contra hdir
      rw [(isNested_iff hp).2 ⟨habs, hdir⟩] at h
      cases h
    rw [if_neg Bool.false_ne_true]
    by_cases hempty : dir.bytes = []
    · rw [join, if_neg (isAbsolute_eq_false_iff.1 habs), if_pos (Or.inl hempty), hempty,
        List.nil_append]
    · rw [components_join_relative habs hempty, hp, List.filter_append, hdots]
      rfl

theorem slashed_ne_of_two {names : List String} {name : String}
    (hn : (Component.normal name).IsPart name) (h : 1 < names.length) : slashed names ≠ name := by
  match names, h with
  | first :: second :: rest, _ =>
    rintro rfl
    refine hn.sep ((Text.Utf8.mem_encode_iff (by decide)).2 ⟨'/', ?_, by decide⟩)
    rw [slashed_cons_cons]
    simp

end Path

namespace Analysis

open Files (Memory)

variable {m : Memory} {counter : TokenCounter} {settings : Settings} {p dir q : Path}
  {name text : String}

structure Alone (m : Memory) (counter : TokenCounter) (settings : Settings) (p : Path)
    (name text : String) : Prop where
  rootless : settings.root = none
  file : m.isDirectory p = .ok false
  readable : m.read p = .ok text
  plain : p.climbs = false
  named : p.fileName? = some name
  analyzable : Scan.isAnalyzable p = true
  small : UInt64.ofNat text.utf8ByteSize ≤ settings.scan.maxFileSize
  fits : ∃ cost, counter.count (Scan.formatBlock name text) = .ok cost ∧
    cost ≤ (settings.ceiling counter.window).toNat

def loneRecord (name text : String) : FileRecord :=
  Scan.withPriority ⟨name, UInt64.ofNat text.utf8ByteSize, none⟩

namespace Alone

section Parent

variable (h : Alone m counter settings p name text)
include h

theorem exists_parent : ∃ dir, p.parent? = some dir := by
  obtain ⟨cs, hcs⟩ := Path.components_of_fileName? h.named
  obtain ⟨dir, hdir, -⟩ := Path.exists_parent? hcs
  exact ⟨dir, hdir⟩

theorem isPart : (Component.normal name).IsPart name := by
  obtain ⟨cs, hcs⟩ := Path.components_of_fileName? h.named
  exact Component.isPart_of_normal_mem (hcs ▸ List.mem_append_right cs List.mem_cons_self)

theorem isFile : m.IsFile p := (Memory.isDirectory_eq_false_iff.1 h.file).1

end Parent

variable (h : Alone m counter settings p name text) (hparent : p.parent? = some dir)
include h hparent

theorem components : p.components = dir.components ++ [.normal name] :=
  Path.components_of_parent? h.named hparent

theorem isDirectory_parent : m.IsDirectory dir :=
  h.isFile.isDirectory_of_below ⟨.normal name, [], h.components hparent⟩

theorem resolveRoot : resolveRoot m.system settings [p] = .ok dir := by
  have hentry : m.system.hasEntry p = true := Memory.hasEntry_iff.2 (Or.inl h.isFile)
  have hisdir : m.system.isDirectory p = .ok false := h.file
  unfold Analysis.resolveRoot
  simp [h.rootless, hentry, hisdir, hparent, Except.toOption]

theorem discover : discover m.system settings.scan dir [p] =
    Scan.discoverEntries m.system settings.scan dir [p] := by
  have hbelow : p.Below dir := ⟨.normal name, [], h.components hparent⟩
  unfold Analysis.discover
  exact if_neg (mt Path.same_iff.1 hbelow.ne)

theorem select_of_error {e : Scan.Error}
    (he : Scan.discoverEntries m.system settings.scan dir [p] = .error e) :
    select m.system counter settings [p] = .error (.discovery e) := by
  unfold select
  rw [h.resolveRoot hparent]
  dsimp only
  rw [h.discover hparent, he]

theorem select_of_unlistable (hread : m.isUnreadable dir = true) :
    select m.system counter settings [p] =
      .error (.discovery (.failed ⟨.list, dir, .forbidden⟩)) :=
  h.select_of_error hparent (Scan.discoverEntries_of_checkRoot_error
    (Scan.checkRoot_of_unreadable (h.isDirectory_parent hparent) hread))

theorem filesOfEntry (hq : q.components = p.components) :
    Scan.filesOfEntry m.system settings.scan dir q = .ok ⟨[q], []⟩ := by
  obtain ⟨hfile, hnot⟩ := Memory.isDirectory_eq_false_iff.1 h.file
  have hisdir : m.system.isDirectory q = .ok false :=
    Memory.isDirectory_eq_false_iff.2 ⟨hfile.congr hq, fun hd => hnot (hd.congr hq.symm)⟩
  have hcomponents := hq.trans (h.components hparent)
  have hstarts : q.startsWith dir = true :=
    Path.startsWith_iff.2 (Or.inr ⟨.normal name, [], hcomponents⟩)
  have hclimbs : q.climbs = false := by
    unfold Path.climbs
    rw [hq]
    exact h.plain
  obtain ⟨dir', hdir', hsame⟩ := Path.exists_parent? hcomponents
  have hskip : Scan.isBelowSkipped settings.scan dir dir' = false :=
    Scan.isBelowSkipped_of_components_eq hsame
  have hanalyzable : Scan.isAnalyzable q = true := (Scan.isAnalyzable_congr hq).trans h.analyzable
  unfold Scan.filesOfEntry
  simp [hclimbs, hstarts, hisdir, hdir', hskip, hanalyzable]

theorem discoverEntries (hread : m.isUnreadable dir = false)
    (hq : (Scan.resolveEntry dir p).components = p.components) :
    Scan.discoverEntries m.system settings.scan dir [p] =
      .ok ⟨[Scan.resolveEntry dir p], [Scan.foundRecord dir 1]⟩ := by
  have hfiles : Scan.filesOfEntries m.system settings.scan dir [p] [] =
      .ok ⟨[Scan.resolveEntry dir p], []⟩ := by
    rw [Scan.filesOfEntries_cons, h.filesOfEntry hparent hq]
    rfl
  exact Scan.discoverEntries_of_checkRoot_ok
    (Scan.checkRoot_of_readable (h.isDirectory_parent hparent) hread) hfiles

theorem describe (hq : q.components = p.components) :
    Scan.describe m.system settings.scan dir [q] =
      ⟨[⟨name, UInt64.ofNat text.utf8ByteSize, none⟩], []⟩ := by
  have hsize : m.system.fileSize q = .ok (UInt64.ofNat text.utf8ByteSize) := by
    have hfile := (Memory.read_eq_ok_iff.1 h.readable).2
    change m.fileSize q = _
    unfold Memory.fileSize
    rw [Memory.file?_congr hq, hfile]
  have hname : Path.relativeTo dir q = name := by
    have hnames : q.components = dir.components ++ [Text.Utf8.encode name].map .normal :=
      hq.trans (h.components hparent)
    rw [Path.relativeTo_of_names hnames, List.map_singleton, Text.Utf8.decodeLossy_encode,
      Path.slashed_singleton]
  simp only [Scan.describe, Scan.describeFile, hsize, hname]
  rw [if_neg (UInt64.not_lt.2 h.small)]
  rfl

theorem legible? {cost : Nat} (hcost : counter.count (Scan.formatBlock name text) = .ok cost) :
    Scan.legible? m.system counter dir (loneRecord name text) =
      some ⟨loneRecord name text, text, cost⟩ := by
  have hread : m.system.read (dir.join name) = .ok text :=
    Memory.read_of_components_eq
      ((Path.components_join h.isPart).trans (h.components hparent).symm) h.readable
  exact (Scan.legible?_eq_some_iff m.system counter).2 ⟨text, cost, hread, hcost, rfl⟩

theorem exists_selects (hread : m.isUnreadable dir = false)
    (hq : (Scan.resolveEntry dir p).components = p.components) :
    ∃ found cost, Selects m.system counter settings [p] found
      ⟨dir, [loneRecord name text], .ofPieces [⟨loneRecord name text, text, cost⟩]⟩ := by
  obtain ⟨cost, hcost, hfits⟩ := h.fits
  have hall : [loneRecord name text].filterMap (Scan.legible? m.system counter dir) =
      [⟨loneRecord name text, text, cost⟩] := by
    simp [h.legible? hparent hcost]
  have htaken : Scan.taken m.system counter dir (settings.ceiling counter.window)
      [loneRecord name text] = [⟨loneRecord name text, text, cost⟩] := by
    rw [Scan.taken_of_totalCost_le m.system counter (by rw [hall]; exact hfits), hall]
  have hranked : Scan.prioritize [⟨name, UInt64.ofNat text.utf8ByteSize, none⟩] =
      [loneRecord name text] :=
    Scan.prioritize_of_ranked (List.pairwise_singleton _ _)
  refine ⟨⟨[Scan.resolveEntry dir p], [Scan.foundRecord dir 1]⟩, cost, ?_⟩
  exact {
    rooted := h.resolveRoot hparent
    scanned := (h.discover hparent).trans (h.discoverEntries hparent hread hq)
    ordered := by
      rw [h.describe hparent hq]
      exact hranked.symm
    collected := by rw [htaken]
    nonempty := by rw [htaken]; exact List.cons_ne_nil _ _ }

theorem filesOfEntry_of_missing (hnested : p.isNested = true)
    (hmissing : m.hasEntry (Scan.resolveEntry dir p) = false) :
    Scan.filesOfEntry m.system settings.scan dir (Scan.resolveEntry dir p) =
      .error (.failed ⟨.isDirectory, Scan.resolveEntry dir p, .missing⟩) := by
  have hq := Path.components_resolveEntry_of_nested (h.components hparent) hnested
  have hparents : Component.parent ∉ p.components := by
    intro hmem
    have hclimbs := h.plain
    rw [Path.climbs, List.contains_iff_mem.2 hmem] at hclimbs
    cases hclimbs
  have hclimbs : (Scan.resolveEntry dir p).climbs = false := by
    rw [Path.climbs, hq, List.contains_eq_mem, decide_eq_false_iff_not, List.mem_append, not_or]
    refine ⟨fun hmem => hparents ?_, fun hmem => hparents (List.mem_of_mem_filter hmem)⟩
    rw [h.components hparent]
    exact List.mem_append_left _ hmem
  have hstarts : (Scan.resolveEntry dir p).startsWith dir = true :=
    List.isPrefixOf_iff_prefix.2 ⟨_, hq.symm⟩
  have hisdir : m.system.isDirectory (Scan.resolveEntry dir p) = _ :=
    Memory.isDirectory_of_missing hmissing
  unfold Scan.filesOfEntry
  rw [hclimbs, hstarts, hisdir]
  rfl

theorem select_of_missing (hread : m.isUnreadable dir = false) (hnested : p.isNested = true)
    (hmissing : m.hasEntry (Scan.resolveEntry dir p) = false) :
    select m.system counter settings [p] =
      .error (.discovery (.failed ⟨.isDirectory, Scan.resolveEntry dir p, .missing⟩)) := by
  refine h.select_of_error hparent ?_
  have hroot := Scan.checkRoot_of_readable (h.isDirectory_parent hparent) hread
  unfold Scan.discoverEntries
  rw [hroot, Scan.filesOfEntries_cons, h.filesOfEntry_of_missing hparent hnested hmissing]

theorem relativeTo_ne (hnested : p.isNested = true) {found : Logged (List Path)}
    (hfound : Analysis.discover m.system settings.scan dir [p] = .ok found)
    (hf : q ∈ found.value) : Path.relativeTo dir q ≠ name := by
  have hp := h.components hparent
  rw [h.discover hparent] at hfound
  obtain ⟨hroot, e, he, new, hnew, hmem⟩ := Scan.exists_entry_of_mem_discoverEntries hfound hf
  obtain rfl := List.mem_singleton.1 he
  obtain ⟨c, cs, hq, hnoparent⟩ := Scan.descends_of_mem_filesOfEntry hroot hnew hmem
  have hnamed : ∀ d ∈ c :: cs, ∃ n, d = .normal n := fun d hd =>
    Path.exists_name_of_mem hq hnoparent
      (fun hempty => absurd hempty (Path.parent_ne_empty_of_nested hp hnested)) hd
  obtain ⟨names, hnames⟩ := Component.exists_names hnamed
  have hlength : 1 < names.length := by
    obtain ⟨ds, hds⟩ :=
      List.isPrefixOf_iff_prefix.1 (Scan.startsWith_of_mem_filesOfEntry hnew hmem)
    rw [Path.components_resolveEntry_of_nested hp hnested, List.append_assoc, hq] at hds
    have htwo := (Bool.and_eq_true_iff.1 hnested).2
    have hall := congrArg List.length (List.append_cancel_left hds)
    rw [hnames, List.length_map, List.length_append] at hall
    exact Nat.lt_of_lt_of_le (of_decide_eq_true htwo) (hall ▸ Nat.le_add_right _ _)
  rw [Path.relativeTo_of_names (hq.trans (congrArg _ hnames))]
  exact Path.slashed_ne_of_two h.isPart (by rwa [List.length_map])

end Alone

theorem Selects.exists_found {system : Files.System} {paths : List Path}
    {found : Logged (List Path)} {s : Selection} {f : FileRecord}
    (hs : Selects system counter settings paths found s) (hf : f ∈ s.collection.files) :
    ∃ p ∈ found.value, f.path = Path.relativeTo s.root p := by
  rw [hs.collected] at hf
  obtain ⟨piece, hpiece, rfl⟩ := List.mem_map.1 hf
  obtain ⟨hordered, -⟩ := Scan.legible?_of_mem_taken system counter hpiece
  rw [hs.ordered, (Scan.prioritize_perm _).mem_iff] at hordered
  obtain ⟨g, hg, hfile⟩ := List.mem_map.1 hordered
  obtain ⟨p, hp, size, -, -, rfl⟩ := Scan.mem_describe_iff.1 hg
  exact ⟨p, hp, congrArg FileRecord.path hfile.symm⟩

theorem ending_of_alone {env : Environment} (h : Alone m env.counter settings p name text) :
    ∃ dir, p.parent? = some dir ∧
      (m.isUnreadable dir = true →
        (analyze { env with system := m.system } settings [p]).ending =
          .failed (.discovery (.failed ⟨.list, dir, .forbidden⟩))) ∧
      (p.isNested = false → m.isUnreadable dir = false → settings.poolTooLarge = false →
        ∃ d, (analyze { env with system := m.system } settings [p]).ending = .digest d ∧
          d.root = dir.text ∧ d.files = [loneRecord name text] ∧
          d.content = Scan.formatBlock name text) ∧
      (p.isNested = true →
        (∀ d, (analyze { env with system := m.system } settings [p]).ending = .digest d →
          ∀ f ∈ d.files, f.path ≠ name) ∧
        (m.isUnreadable dir = false → m.hasEntry (Scan.resolveEntry dir p) = false →
          (analyze { env with system := m.system } settings [p]).ending =
            .failed (.discovery
              (.failed ⟨.isDirectory, Scan.resolveEntry dir p, .missing⟩)))) := by
  obtain ⟨dir, hparent⟩ := h.exists_parent
  refine ⟨dir, hparent, ?_, ?_, ?_⟩
  · intro hread
    rw [analyze_of_error (h.select_of_unlistable hparent hread)]
  · intro hnested hread hpool
    have hq := Path.components_resolveEntry_of_not_nested (h.components hparent) hnested
    obtain ⟨found, cost, hs⟩ := h.exists_selects hparent hread hq
    refine ⟨_, ending_eq_digest_iff.2 ⟨_, _, hs, hpool, rfl⟩, rfl, rfl, ?_⟩
    exact String.empty_append
  · intro hnested
    refine ⟨?_, ?_⟩
    · intro d hd f hf
      obtain ⟨found, s, hs, -, rfl⟩ := ending_eq_digest_iff.1 hd
      obtain rfl : dir = s.root := Except.ok.inj ((h.resolveRoot hparent).symm.trans hs.rooted)
      obtain ⟨q, hq, hpath⟩ := hs.exists_found hf
      rw [hpath]
      exact h.relativeTo_ne hparent hnested hs.scanned hq
    · intro hread hmissing
      rw [analyze_of_error (h.select_of_missing hparent hread hnested hmissing)]

def absoluteMemory : Memory := ⟨[(⟨"/p/a.ts"⟩, "x"), (⟨"/p/src/b.ts"⟩, "y")], []⟩

theorem ending_of_alone_absolute :
    Alone absoluteMemory sampleEnvironment.counter .default ⟨"/p/a.ts"⟩ "a.ts" "x" ∧
      ∃ d, (analyze { sampleEnvironment with system := absoluteMemory.system } .default
          [⟨"/p/a.ts"⟩]).ending = .digest d ∧
        d.root = "/p" ∧ d.files = [loneRecord "a.ts" "x"] ∧
        d.content = Scan.formatBlock "a.ts" "x" := by
  have halone : Alone absoluteMemory sampleEnvironment.counter .default ⟨"/p/a.ts"⟩ "a.ts" "x" :=
    ⟨rfl, by decide +kernel, by decide +kernel, by decide +kernel, by decide +kernel,
      by decide +kernel, by decide +kernel, 12, by decide +kernel, by decide +kernel⟩
  obtain ⟨dir, hparent, -, hfound, -⟩ := ending_of_alone halone
  obtain rfl : ⟨"/p"⟩ = dir := Option.some.inj hparent
  exact ⟨halone, hfound (by decide +kernel) (by decide +kernel) (by decide)⟩

def nestedMemory : Memory := ⟨[(⟨"src/a.ts"⟩, "x")], []⟩

theorem alone_nested :
    Alone nestedMemory sampleEnvironment.counter .default ⟨"src/a.ts"⟩ "a.ts" "x" :=
  ⟨rfl, by decide +kernel, by decide +kernel, by decide +kernel, by decide +kernel,
    by decide +kernel, by decide +kernel, 12, by decide +kernel, by decide +kernel⟩

theorem no_digest_nested :
    Alone nestedMemory sampleEnvironment.counter .default ⟨"src/a.ts"⟩ "a.ts" "x" ∧
      nestedMemory.isUnreadable ⟨"src"⟩ = false ∧ Settings.default.poolTooLarge = false ∧
      (analyze { sampleEnvironment with system := nestedMemory.system } .default
        [⟨"src/a.ts"⟩]).ending =
          .failed (.discovery (.failed ⟨.isDirectory, ⟨"src/src/a.ts"⟩, .missing⟩)) := by
  have hparent : (⟨"src/a.ts"⟩ : Path).parent? = some ⟨"src"⟩ := by decide +kernel
  have hselect := alone_nested.select_of_missing hparent (by decide +kernel) (by decide +kernel)
    (by decide +kernel)
  refine ⟨alone_nested, by decide +kernel, by decide, ?_⟩
  rw [analyze_of_error hselect]
  decide +kernel

end Analysis

end SourceDigest
