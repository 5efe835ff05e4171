import SourceDigest.Proofs.Analysis.Insights
import SourceDigest.Proofs.Scan.Addressing

namespace SourceDigest.Analysis

open Files (Memory)

variable {m : Memory} {counter : TokenCounter} {options : Scan.Options} {root p : Path}
  {f : FileRecord}

structure Includable (m : Memory) (counter : TokenCounter) (options : Scan.Options) (root p : Path)
    (f : FileRecord) : Prop where
  size : m.fileSize p = .ok f.size
  fits : f.size ≤ options.maxFileSize
  legible : ∃ text cost, m.read p = .ok text ∧
    counter.count (Scan.formatBlock f.path text) = .ok cost
  record : f = Scan.withPriority ⟨Path.relativeTo root p, f.size, none⟩

theorem discovers_of_discover {paths : List Path} {found : Logged (List Path)}
    (h : discover m.system options root paths = .ok found) :
    Scan.Discovers m options root found := by
  unfold discover at h
  split at h
  · split at h
    · exact Or.inl h
    · exact Or.inr ⟨_, h⟩
  · exact Or.inr ⟨_, h⟩

theorem Includable.path_eq (h : Includable m counter options root p f) :
    f.path = Path.relativeTo root p := by
  rw [h.record]
  rfl

theorem Includable.legible? (h : Includable m counter options root p f) (hp : p.Descends root)
    (hretrace : Path.Retraceable root p) :
    (Scan.legible? m.system counter root f).isSome = true := by
  obtain ⟨text, cost, hread, hcount⟩ := h.legible
  have hjoin : (root.join f.path).components = p.components := by
    rw [h.path_eq]
    exact (Path.leads_back_iff hp).2 hretrace
  have hrecord : m.system.read (root.join f.path) = .ok text :=
    Memory.read_of_components_eq hjoin hread
  rw [Option.isSome_iff_exists]
  exact ⟨_, (Scan.legible?_eq_some_iff m.system counter).2 ⟨text, cost, hrecord, hcount, rfl⟩⟩

theorem Includable.mem_ranked {found : List Path} (h : Includable m counter options root p f)
    (hp : p ∈ found) : f ∈ Scan.prioritize (Scan.describe m.system options root found).value := by
  rw [(Scan.prioritize_perm _).mem_iff, List.mem_map]
  refine ⟨⟨Path.relativeTo root p, f.size, none⟩, ?_, h.record.symm⟩
  exact Scan.mem_describe_iff.2 ⟨p, hp, f.size, h.size, h.fits, rfl⟩

theorem rank_lt_of_leftOut {settings : Settings} {paths : List Path} {found : Logged (List Path)}
    {s : Selection} {g : FileRecord} (hs : Selects m.system counter settings paths found s)
    (hf : Includable m counter settings.scan s.root p f) (hp : p ∈ found.value)
    (hretrace : Path.Retraceable s.root p) (hout : f ∉ s.collection.files)
    (hg : g ∈ s.collection.files) :
    g.rank < f.rank := by
  have hlegible := hf.legible? ((discovers_of_discover hs.scanned).descends hp) hretrace
  have hranked := hf.mem_ranked hp
  rw [hs.collected, hs.ordered] at hout hg
  exact Scan.rank_lt_of_not_taken hranked hlegible hout hg

theorem Selects.toNat_totalTokens {system : Files.System} {settings : Settings} {paths : List Path}
    {found : Logged (List Path)} {s : Selection}
    (hs : Selects system counter settings paths found s) :
    (UInt64.ofNat s.collection.totalTokens).toNat = s.collection.totalTokens ∧
      s.collection.totalTokens ≤ (settings.ceiling counter.window).toNat := by
  have hwithin : s.collection.totalTokens ≤ (settings.ceiling counter.window).toNat := by
    rw [hs.collected]
    exact (Scan.taken_fillsBudget system counter s.root _ s.ordered).within
  refine ⟨?_, hwithin⟩
  rw [UInt64.toNat_ofNat']
  exact Nat.mod_eq_of_lt (Nat.lt_of_le_of_lt hwithin (UInt64.toNat_lt _))

theorem kept_before_leftOut {env : Environment} {settings : Settings} {paths : List Path}
    {d : Digest}
    (h : (analyze { env with system := m.system } settings paths).ending = .digest d) :
    (∃ root found ranked, resolveRoot m.system settings paths = .ok root ∧
      discover m.system settings.scan root paths = .ok found ∧ d.root = root.text ∧
      ranked = Scan.prioritize (Scan.describe m.system settings.scan root found.value).value ∧
      (Scan.CostsFit m.system env.counter root ranked →
        (∀ run, run <+: ranked.filterMap (Scan.legible? m.system env.counter root) →
          (Scan.runningTotal run).toNat = Scan.totalCost run) ∧
        (∀ p ∈ found.value, Path.Retraceable root p →
          ∀ f, Includable m env.counter settings.scan root p f → f ∉ d.files →
            ∀ g ∈ d.files, g.rank < f.rank) ∧
        ∃ pieces : List Scan.Piece, d.files = pieces.map (·.file) ∧
          d.content = String.join (pieces.map Scan.Piece.block) ∧
          (∀ p ∈ pieces, env.counter.count p.block = .ok p.cost) ∧
          d.totalTokens.toNat = (pieces.map (·.cost)).sum)) ∧
    d.totalTokens ≤ settings.ceiling env.counter.window ∧
    (settings.tokenCeiling = none → ∀ reserve window,
      Settings.ceiling { settings with promptReserve := reserve } window ≤ window) := by
  obtain ⟨found, s, hs, -, rfl⟩ := ending_eq_digest_iff.1 h
  have hcollected : s.collection = .ofPieces (Scan.taken m.system env.counter s.root
      (settings.ceiling env.counter.window) s.ordered) := hs.collected
  obtain ⟨htokens, hwithin⟩ : _ ∧ s.collection.totalTokens ≤
      (settings.ceiling env.counter.window).toNat := hs.toNat_totalTokens
  refine ⟨⟨s.root, found, s.ordered, hs.rooted, hs.scanned, rfl, hs.ordered, fun hfit =>
    ⟨?_, ?_, Scan.taken m.system env.counter s.root (settings.ceiling env.counter.window) s.ordered,
      ?_, ?_, ?_, ?_⟩⟩, ?_, ?_⟩
  · intro run hrun
    exact Scan.toNat_runningTotal (Nat.lt_of_le_of_lt (Scan.totalCost_le_of_prefix hrun) hfit)
  · intro p hp hretrace f hf hout g hg
    exact rank_lt_of_leftOut hs hf hp hretrace hout hg
  · exact congrArg Scan.Collection.files hcollected
  · exact congrArg Scan.Collection.content hcollected
  · intro p hp
    obtain ⟨-, hlegible⟩ := Scan.legible?_of_mem_taken m.system env.counter hp
    obtain ⟨text, cost, -, hcount, hpiece⟩ :=
      (Scan.legible?_eq_some_iff m.system env.counter).1 hlegible
    rw [hpiece]
    exact hcount
  · rw [← Scan.totalCost_eq_sum]
    exact htokens.trans (congrArg Scan.Collection.totalTokens hcollected)
  · rw [UInt64.le_iff_toNat_le]
    exact htokens.trans_le hwithin
  · intro hnone reserve window
    exact @Settings.ceiling_le_window { settings with promptReserve := reserve } hnone window

def tightSettings : Settings := { Settings.default with tokenCeiling := some 14 }

theorem selects_tight :
    Selects sampleEnvironment.system sampleEnvironment.counter tightSettings
      [⟨"readme.rs"⟩, ⟨"setup.py"⟩]
      ⟨[⟨"readme.rs"⟩, ⟨"setup.py"⟩], [Scan.foundRecord ⟨""⟩ 2]⟩
      ⟨⟨""⟩, samplePieces.map (·.file), .ofPieces (samplePieces.take 1)⟩ where
  rooted := by decide +kernel
  scanned := by decide +kernel
  ordered := by
    have hdescribed : Scan.describe sampleEnvironment.system tightSettings.scan ⟨""⟩
        [⟨"readme.rs"⟩, ⟨"setup.py"⟩] = ⟨sampleFiles, []⟩ := by
      decide +kernel
    rw [hdescribed]
    have hranked : Scan.prioritize sampleFiles = sampleFiles.map Scan.withPriority :=
      Scan.prioritize_of_ranked (by decide +kernel)
    exact hranked.symm
  collected := by decide +kernel
  nonempty := by decide +kernel

theorem ending_tight :
    (analyze sampleEnvironment tightSettings [⟨"readme.rs"⟩, ⟨"setup.py"⟩]).ending =
      .digest (digestFor sampleEnvironment tightSettings
        ⟨⟨""⟩, samplePieces.map (·.file), .ofPieces (samplePieces.take 1)⟩) :=
  ending_eq_digest_iff.2 ⟨_, _, selects_tight, by decide +kernel, rfl⟩

def sampleMemory : Memory := ⟨[(⟨"readme.rs"⟩, "x"), (⟨"setup.py"⟩, " ")], []⟩

theorem kept_before_leftOut_tight :
    ∃ d, (analyze { sampleEnvironment with system := sampleMemory.system } tightSettings
        [⟨"readme.rs"⟩, ⟨"setup.py"⟩]).ending = .digest d ∧
      d.files.map (·.path) = ["readme.rs"] ∧ d.totalTokens ≤ 14 ∧
      ∀ g ∈ d.files, g.rank < (Scan.withPriority ⟨"setup.py", 1, none⟩).rank := by
  obtain ⟨⟨root, found, ranked, hroot, hfound, -, hranked, hfit⟩, hceiling, -⟩ :=
    @kept_before_leftOut sampleMemory sampleEnvironment _ _ _ ending_tight
  cases hroot.symm.trans selects_tight.rooted
  cases hfound.symm.trans selects_tight.scanned
  cases hranked.trans selects_tight.ordered.symm
  have hcosts : Scan.CostsFit sampleMemory.system sampleEnvironment.counter ⟨""⟩
      (samplePieces.map (·.file)) := by
    unfold Scan.CostsFit
    decide +kernel
  obtain ⟨-, hbefore, -⟩ := hfit hcosts
  have hincludable : Includable sampleMemory sampleEnvironment.counter tightSettings.scan ⟨""⟩
      ⟨"setup.py"⟩ (Scan.withPriority ⟨"setup.py", 1, none⟩) :=
    ⟨by decide +kernel, by decide, ⟨" ", 13, by decide +kernel, by decide +kernel⟩,
      by decide +kernel⟩
  have hretrace : Path.Retraceable ⟨""⟩ ⟨"setup.py"⟩ :=
    ⟨fun _ => ⟨"setup.py", by decide +kernel⟩, by decide +kernel⟩
  refine ⟨_, ending_tight, by decide +kernel, hceiling, ?_⟩
  refine hbefore ⟨"setup.py"⟩ ?_ hretrace _ hincludable ?_
  · decide +kernel
  · decide +kernel

def LeavesOutFirst (m : Memory) (settings : Settings) (paths : List Path) (p : Path) : Prop :=
  ∃ d root found f g,
    (analyze { sampleEnvironment with system := m.system } settings paths).ending = .digest d ∧
    resolveRoot m.system settings paths = .ok root ∧
    discover m.system settings.scan root paths = .ok found ∧ p ∈ found.value ∧
    Includable m sampleEnvironment.counter settings.scan root p f ∧ f ∉ d.files ∧ g ∈ d.files ∧
    f.rank < g.rank

theorem leavesOutFirst_of_selects {settings : Settings} {paths : List Path}
    {found : Logged (List Path)} {s : Selection} {g : FileRecord}
    (hs : Selects m.system sampleEnvironment.counter settings paths found s)
    (hpool : settings.poolTooLarge = false) (hp : p ∈ found.value)
    (hf : Includable m sampleEnvironment.counter settings.scan s.root p f)
    (hout : f ∉ s.collection.files) (hg : g ∈ s.collection.files)
    (hfirst : ¬ Scan.FileRecord.ranksUpTo g f = true) : LeavesOutFirst m settings paths p := by
  have hending : (analyze { sampleEnvironment with system := m.system } settings paths).ending =
      .digest _ := ending_eq_digest_iff.2 ⟨found, s, hs, hpool, rfl⟩
  rw [Scan.ranksUpTo_iff_rank_le, not_le] at hfirst
  exact ⟨_, _, _, f, g, hending, hs.rooted, hs.scanned, hp, hf, hout, hg, hfirst⟩

def rootlessMemory : Memory := ⟨[(⟨"/x/setup.py"⟩, " "), (⟨"readme.rs"⟩, "xx")], []⟩

def foreignScript : Path := ⟨Text.Utf8.encode "/p/d" ++ 0xff :: Text.Utf8.encode "/setup.py"⟩

def foreignMemory : Memory := ⟨[(foreignScript, " "), (⟨"/p/readme.rs"⟩, "xx")], []⟩

def foreignSettings : Settings := { Settings.default with root := some ⟨"/p"⟩ }

def readmePieces : List Scan.Piece := [⟨Scan.withPriority ⟨"readme.rs", 2, none⟩, "xx", 14⟩]

theorem selects_readme (m : Memory) (settings : Settings) (paths : List Path) (root p q : Path)
    (shown : String) (hroot : resolveRoot m.system settings paths = .ok root)
    (hfound : discover m.system settings.scan root paths = .ok ⟨[p, q], [Scan.foundRecord root 2]⟩)
    (hdescribed : Scan.describe m.system settings.scan root [p, q] =
      ⟨[⟨shown, 1, none⟩, ⟨"readme.rs", 2, none⟩], []⟩)
    (hranked : ([⟨shown, 1, none⟩, ⟨"readme.rs", 2, none⟩].map Scan.withPriority).Pairwise
      fun f g => Scan.FileRecord.ranksUpTo f g = true)
    (htaken : Scan.taken m.system sampleEnvironment.counter root
      (settings.ceiling sampleEnvironment.counter.window)
        ([⟨shown, 1, none⟩, ⟨"readme.rs", 2, none⟩].map Scan.withPriority) = readmePieces) :
    Selects m.system sampleEnvironment.counter settings paths
      ⟨[p, q], [Scan.foundRecord root 2]⟩
      ⟨root, [⟨shown, 1, none⟩, ⟨"readme.rs", 2, none⟩].map Scan.withPriority,
        .ofPieces readmePieces⟩ where
  rooted := hroot
  scanned := hfound
  ordered := by
    rw [hdescribed]
    exact (Scan.prioritize_of_ranked hranked).symm
  collected := congrArg Scan.Collection.ofPieces htaken.symm
  nonempty := by
    rw [htaken]
    exact List.cons_ne_nil _ _

theorem leftOut_first :
    LeavesOutFirst rootlessMemory .default [⟨"readme.rs"⟩, ⟨"/x/setup.py"⟩] ⟨"/x/setup.py"⟩ ∧
      LeavesOutFirst foreignMemory foreignSettings [⟨"readme.rs"⟩, foreignScript]
        foreignScript := by
  constructor
  · have hs := selects_readme rootlessMemory .default [⟨"readme.rs"⟩, ⟨"/x/setup.py"⟩] ⟨""⟩
      ⟨"/x/setup.py"⟩ ⟨"readme.rs"⟩ "x/setup.py" (by decide +kernel) (by decide +kernel)
      (by decide +kernel) (by decide +kernel) (by decide +kernel)
    have hf : Includable rootlessMemory sampleEnvironment.counter .default ⟨""⟩ ⟨"/x/setup.py"⟩
        (Scan.withPriority ⟨"x/setup.py", 1, none⟩) :=
      ⟨by decide +kernel, by decide, ⟨" ", 14, by decide +kernel, by decide +kernel⟩, rfl⟩
    exact leavesOutFirst_of_selects hs (by decide +kernel) List.mem_cons_self hf
      (by decide +kernel) List.mem_cons_self (by decide +kernel)
  · have hs := selects_readme foreignMemory foreignSettings [⟨"readme.rs"⟩, foreignScript] ⟨"/p"⟩
      foreignScript ⟨"/p/readme.rs"⟩ "d\ufffd/setup.py" (by decide +kernel) (by decide +kernel)
      (by decide +kernel) (by decide +kernel) (by decide +kernel)
    have hf : Includable foreignMemory sampleEnvironment.counter foreignSettings.scan ⟨"/p"⟩
        foreignScript (Scan.withPriority ⟨"d\ufffd/setup.py", 1, none⟩) :=
      ⟨by decide +kernel, by decide, ⟨" ", 14, by decide +kernel, by decide +kernel⟩,
        by decide +kernel⟩
    exact leavesOutFirst_of_selects hs (by decide +kernel) List.mem_cons_self hf
      (by decide +kernel) List.mem_cons_self (by decide +kernel)

end SourceDigest.Analysis
