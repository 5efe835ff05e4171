import Mathlib.Data.List.Perm.Basic
import SourceDigest.Files.Memory
import SourceDigest.Proofs.Analysis.Fate
import SourceDigest.Proofs.Analysis.Selection

namespace SourceDigest.Analysis

open Syntax (Language)

structure Selection.Readable (system : Files.System) (s : Selection) : Prop where
  parallel : s.collection.files.length = s.collection.sources.length
  read : ∀ e : String × String,
    e ∈ (s.collection.files.map (·.path)).zip s.collection.sources →
      system.read (s.root.join e.1) = .ok e.2

theorem Selects.readable {system : Files.System} {counter : TokenCounter} {settings : Settings}
    {paths : List Path} {found : Logged (List Path)} {s : Selection}
    (h : Selects system counter settings paths found s) : s.Readable system := by
  constructor
  · simp [h.collected, Scan.Collection.ofPieces]
  · intro e he
    rw [h.collected] at he
    simp only [Scan.Collection.ofPieces, List.map_map, List.zip_map', List.mem_map] at he
    obtain ⟨p, hp, rfl⟩ := he
    exact Scan.read_of_mem_takePieces system counter hp

theorem readable_of_select {system : Files.System} {counter : TokenCounter} {settings : Settings}
    {paths : List Path} {selected : Logged Selection}
    (h : select system counter settings paths = .ok selected) :
    selected.value.Readable system := by
  obtain ⟨found, hselects⟩ := selects_of_select h
  exact hselects.readable

variable {env : Environment} {s : Selection}

theorem Selection.Readable.map_fst (h : s.Readable env.system) :
    ((s.collection.files.map (·.path)).zip s.collection.sources).map Prod.fst =
      s.collection.files.map (·.path) := by
  apply List.map_fst_zip
  rw [List.length_map]
  exact Nat.le_of_eq h.parallel

theorem Selection.Readable.exists_source (h : s.Readable env.system) {f : FileRecord}
    (hf : f ∈ s.collection.files) :
    ∃ source, env.system.read (s.root.join f.path) = .ok source := by
  have hpath : f.path ∈ s.collection.files.map (·.path) := List.mem_map_of_mem hf
  rw [← h.map_fst, List.mem_map] at hpath
  obtain ⟨e, he, hep⟩ := hpath
  exact ⟨e.2, hep ▸ h.read e he⟩

theorem filterMap_zip_fateOf {β : Type} (h : s.Readable env.system)
    (timeout : Option Duration) (g : String → Fate → Option β) :
    ((s.collection.files.map (·.path)).zip s.collection.sources).filterMap
        (fun e => g e.1 (fateOf env timeout e.1 e.2)) =
      s.collection.files.filterMap fun f => g f.path (fateAt env timeout s.root f.path) := by
  have hfate : ((s.collection.files.map (·.path)).zip s.collection.sources).filterMap
      (fun e => g e.1 (fateOf env timeout e.1 e.2)) =
      ((s.collection.files.map (·.path)).zip s.collection.sources).filterMap
        ((fun path => g path (fateAt env timeout s.root path)) ∘ Prod.fst) := by
    apply List.filterMap_congr
    intro e he
    simp only [Function.comp, fateAt, h.read e he]
  rw [hfate, ← List.filterMap_map, h.map_fst, List.filterMap_map]
  rfl

theorem outcomesOf_tasksOf (h : s.Readable env.system) (timeout : Option Duration) :
    outcomesOf env (tasksOf env timeout s).value =
      s.collection.files.filterMap
        fun f => (fateAt env timeout s.root f.path).outcome?.map (f.path, ·) := by
  rw [tasksOf, (parseSources_fate env timeout [] (agrees_nil _) _).1]
  exact filterMap_zip_fateOf h timeout fun path fate => fate.outcome?.map (path, ·)

theorem log_tasksOf (h : s.Readable env.system) (timeout : Option Duration) :
    (tasksOf env timeout s).log =
      s.collection.files.filterMap
        fun f => parseRecord? f.path (fateAt env timeout s.root f.path) := by
  rw [tasksOf, (parseSources_fate env timeout [] (agrees_nil _) _).2]
  exact filterMap_zip_fateOf h timeout parseRecord?

theorem insights_askAll (env : Environment) (limit : Option UInt64) (tasks : List Task) :
    (askAll env limit tasks).insights = gatherInsights (outcomesOf env tasks) := by
  simp only [askAll, Pool.inOrder_run]
  rfl

theorem asked_askAll_perm (env : Environment) (limit : Option UInt64) (tasks : List Task) :
    (askAll env limit tasks).asked.Perm ((outcomesOf env tasks).map Prod.fst) := by
  have h := (Pool.results_perm ⟨limit.map UInt64.toNat, env.pick⟩
    (fun t : Task => (t.path, Extraction.extract env.model env.sampling t.path t.tree)) tasks).map
    Prod.fst
  rw [List.map_map] at h
  exact h

theorem map_fst_filterMap_outcome (g : String → Fate) (files : List FileRecord) :
    (files.filterMap fun f => (g f.path).outcome?.map (f.path, ·)).map Prod.fst =
      (files.filter fun f => (g f.path).outcome?.isSome).map (·.path) := by
  induction files with
  | nil => rfl
  | cons f files ih =>
    rw [List.filterMap_cons, List.filter_cons]
    cases (g f.path).outcome? with
    | none => exact ih
    | some o => exact congrArg (List.cons f.path) ih

theorem filterMap_append_perm {α β : Type} (f g : α → Option β)
    (h : ∀ a, f a = none ∨ g a = none) (l : List α) :
    (l.filterMap f ++ l.filterMap g).Perm (l.filterMap fun a => (f a).or (g a)) := by
  induction l with
  | nil => exact List.Perm.refl _
  | cons a l ih =>
    simp only [List.filterMap_cons]
    cases hf : f a with
    | some b =>
      have hg : g a = none := by
        rcases h a with hn | hn
        · rw [hf] at hn
          cases hn
        · exact hn
      rw [hg]
      exact ih.cons b
    | none =>
      cases hg : g a with
      | none => exact ih
      | some b => exact List.perm_middle.trans (ih.cons b)

theorem records_perm (g : String → Fate) (files : List FileRecord) :
    (files.filterMap (fun f => parseRecord? f.path (g f.path)) ++
        (files.filterMap fun f => (g f.path).outcome?.map (f.path, ·)).filterMap
          fun e => outcomeRecord? e.1 e.2).Perm
      (files.filterMap fun f => (g f.path).record? f.path) := by
  have hout : (files.filterMap fun f => (g f.path).outcome?.map (f.path, ·)).filterMap
      (fun e => outcomeRecord? e.1 e.2) =
      files.filterMap fun f => (g f.path).outcome?.bind (outcomeRecord? f.path) := by
    rw [List.filterMap_filterMap]
    congr 1
    funext f
    cases (g f.path).outcome? <;> rfl
  rw [hout]
  apply filterMap_append_perm
  intro f
  cases g f.path with
  | answered o => exact Or.inl rfl
  | unread => exact Or.inl rfl
  | noGrammar => exact Or.inl rfl
  | unparsed e => exact Or.inr rfl

theorem ofAnswer_eq_insights_iff {path : String} {a : Model.Answer} {i : Insights} :
    Extraction.Outcome.ofAnswer path a = .insights i ↔
      ∃ raw v, a = .text raw ∧ Reply.parse raw = .ok v ∧ v ≠ .null ∧ Insights.ofJson v = .ok i := by
  constructor
  · intro h
    cases a with
    | failed f => cases h
    | abandoned => cases h
    | text raw =>
      simp only [Extraction.Outcome.ofAnswer] at h
      cases hp : Reply.parse raw with
      | error e => simp [hp] at h
      | ok v =>
        rw [hp] at h
        refine ⟨raw, v, rfl, hp, ?_, ?_⟩
        · rintro rfl
          cases h
        · simp only [Extraction.Outcome.ofValue] at h
          split at h
          · cases h
          · split at h
            · cases h
              assumption
            · cases h
  · rintro ⟨raw, v, rfl, hp, hv, hi⟩
    simp only [Extraction.Outcome.ofAnswer, hp]
    cases v with
    | null => exact absurd rfl hv
    | bool b => simp only [Extraction.Outcome.ofValue, hi]
    | number n => simp only [Extraction.Outcome.ofValue, hi]
    | string t => simp only [Extraction.Outcome.ofValue, hi]
    | array l => simp only [Extraction.Outcome.ofValue, hi]
    | object m => simp only [Extraction.Outcome.ofValue, hi]

theorem fateAt_eq_insights_iff {timeout : Option Duration} {root : Path} {p : String}
    {i : Insights} :
    fateAt env timeout root p = .answered (.insights i) ↔
      ∃ l source g tree raw v, Language.ofPath? ⟨p⟩ = some l ∧
        env.system.read (root.join p) = .ok source ∧ Syntax.isBlankText source = false ∧
        env.load l = .ok g ∧ g.parse l timeout source = .ok tree ∧
        env.model (Extraction.request env.sampling p tree.condense) = .text raw ∧
        Reply.parse raw = .ok v ∧ v ≠ .null ∧ Insights.ofJson v = .ok i := by
  constructor
  · intro h
    unfold fateAt at h
    cases hr : env.system.read (root.join p) with
    | error f => simp [hr] at h
    | ok source =>
      cases hl : Language.ofPath? ⟨p⟩ with
      | none => simp [hr, fateOf, hl] at h
      | some l =>
        simp only [hr, fateOf, hl] at h
        split at h
        · cases h
        · rename_i hb
          cases hg : env.load l with
          | error e => simp [hg] at h
          | ok g =>
            cases ht : g.parse l timeout source with
            | error e => simp [hg, ht] at h
            | ok tree =>
              simp only [hg, ht, Fate.answered.injEq, Extraction.extract] at h
              obtain ⟨raw, v, ha, hp, hv, hi⟩ := ofAnswer_eq_insights_iff.1 h
              exact ⟨l, source, g, tree, raw, v, rfl, rfl, by simpa using hb, hg, ht, ha, hp, hv, hi⟩
  · rintro ⟨l, source, g, tree, raw, v, hl, hr, hb, hg, ht, ha, hp, hv, hi⟩
    simp only [fateAt, hr, fateOf, hl, hb, hg, ht, Extraction.extract, Bool.false_eq_true, if_false,
      Fate.answered.injEq]
    exact ofAnswer_eq_insights_iff.2 ⟨raw, v, ha, hp, hv, hi⟩

theorem record?_isSome_iff {timeout : Option Duration} {root : Path} {p source : String}
    (h : env.system.read (root.join p) = .ok source) :
    ((fateAt env timeout root p).record? p).isSome = true ↔
      (Language.ofPath? ⟨p⟩).isSome = true ∧
        ∀ i, fateAt env timeout root p ≠ .answered (.insights i) := by
  simp only [fateAt, h, fateOf]
  cases Language.ofPath? ⟨p⟩ with
  | none => simp [Fate.record?, parseRecord?, Fate.outcome?]
  | some l =>
    simp only
    split
    · simp [Fate.record?, parseRecord?]
    · cases env.load l with
      | error e => simp [Fate.record?, parseRecord?]
      | ok g =>
        simp only
        cases g.parse l timeout source with
        | error e => simp [Fate.record?, parseRecord?]
        | ok tree =>
          simp only
          cases Extraction.extract env.model env.sampling p tree with
          | insights i => simp [Fate.record?, parseRecord?, Fate.outcome?, outcomeRecord?]
          | failed e => simp [Fate.record?, parseRecord?, Fate.outcome?, outcomeRecord?]
          | abandoned => simp [Fate.record?, parseRecord?, Fate.outcome?, outcomeRecord?]

theorem get?_insights_askAll (h : s.Readable env.system) (timeout : Option Duration)
    (limit : Option UInt64) (p : String) (i : Insights) :
    (askAll env limit (tasksOf env timeout s).value).insights.value.get? p = some i ↔
      (∃ f ∈ s.collection.files, f.path = p) ∧
        fateAt env timeout s.root p = .answered (.insights i) := by
  have hmem : ∀ q o, (q, o) ∈ outcomesOf env (tasksOf env timeout s).value ↔
      (∃ f ∈ s.collection.files, f.path = q) ∧ fateAt env timeout s.root q = .answered o := by
    intro q o
    rw [outcomesOf_tasksOf h, List.mem_filterMap]
    constructor
    · rintro ⟨f, hf, ho⟩
      obtain ⟨o', ho', heq⟩ := Option.map_eq_some_iff.1 ho
      cases heq
      refine ⟨⟨f, hf, rfl⟩, ?_⟩
      cases hfate : fateAt env timeout s.root f.path with
      | answered o' =>
        rw [hfate] at ho'
        cases ho'
        rfl
      | unread => simp [hfate, Fate.outcome?] at ho'
      | noGrammar => simp [hfate, Fate.outcome?] at ho'
      | unparsed e => simp [hfate, Fate.outcome?] at ho'
    · rintro ⟨⟨f, hf, rfl⟩, ho⟩
      exact ⟨f, hf, by rw [ho]; rfl⟩
  rw [insights_askAll, get?_gatherInsights_eq_some_iff, hmem]
  -- the outcome of a file is a function of its path
  rintro ⟨q, o⟩ ha ⟨q', o'⟩ hb hq
  simp only at hq
  subst hq
  have hfate := ((hmem q o).1 ha).2.symm.trans ((hmem q o').1 hb).2
  exact Fate.answered.inj hfate

def answersFor (env : Environment) (settings : Settings) (s : Selection) : Answers :=
  askAll env settings.extractionLimit (tasksOf env settings.parseTimeout s).value

theorem analyze_eq {settings : Settings} {paths : List Path} {selected : Logged Selection}
    (hs : select env.system env.counter settings paths = .ok selected)
    (hp : settings.poolTooLarge = false) :
    analyze env settings paths =
      { ending := .digest (digestOf env selected.value
          (env.readManifest selected.value.root).value
          (answersFor env settings selected.value).insights.value)
        log := selected.log ++ (env.readManifest selected.value.root).log
          ++ (tasksOf env settings.parseTimeout selected.value).log
          ++ (answersFor env settings selected.value).insights.log
        asked := (answersFor env settings selected.value).asked } := by
  simp only [analyze, hs, examine, hp, Bool.false_eq_true, if_false, answersFor]

theorem ending_eq_digest {settings : Settings} {paths : List Path} {d : Digest}
    (h : (analyze env settings paths).ending = .digest d) :
    ∃ selected, select env.system env.counter settings paths = .ok selected ∧
      settings.poolTooLarge = false := by
  unfold analyze at h
  cases hs : select env.system env.counter settings paths with
  | error e => simp [hs] at h
  | ok selected =>
    refine ⟨selected, rfl, ?_⟩
    simp only [hs, examine] at h
    split at h
    · cases h
    · rename_i hp
      simpa using hp

def digestFor (env : Environment) (settings : Settings) (s : Selection) : Digest :=
  digestOf env s (env.readManifest s.root).value (answersFor env settings s).insights.value

theorem ending_eq_digest_iff {settings : Settings} {paths : List Path} {d : Digest} :
    (analyze env settings paths).ending = .digest d ↔
      ∃ found s, Selects env.system env.counter settings paths found s ∧
        settings.poolTooLarge = false ∧ d = digestFor env settings s := by
  constructor
  · intro h
    obtain ⟨selected, hs, hp⟩ := ending_eq_digest h
    obtain ⟨found, hselects⟩ := selects_of_select hs
    rw [analyze_eq hs hp] at h
    cases h
    exact ⟨found, selected.value, hselects, hp, rfl⟩
  · rintro ⟨found, s, hselects, hp, rfl⟩
    obtain ⟨log, hs⟩ := hselects.exists_select
    rw [analyze_eq hs hp]
    rfl

theorem insights_of_digest {settings : Settings} {paths : List Path} {d : Digest}
    (h : (analyze env settings paths).ending = .digest d) :
    ∃ root, resolveRoot env.system settings paths = .ok root ∧ d.root = root.text ∧
    (∀ p i, d.insights.get? p = some i ↔
      (∃ f ∈ d.files, f.path = p) ∧
      ∃ l source g tree raw v, Language.ofPath? ⟨p⟩ = some l ∧
        env.system.read (root.join p) = .ok source ∧
        Syntax.isBlankText source = false ∧ env.load l = .ok g ∧
        g.parse l settings.parseTimeout source = .ok tree ∧
        env.model (Extraction.request env.sampling p tree.condense) = .text raw ∧
        Reply.parse raw = .ok v ∧ v ≠ .null ∧ Insights.ofJson v = .ok i) ∧
    (analyze env settings paths).asked.Perm ((d.files.filter fun f =>
      (fateAt env settings.parseTimeout root f.path).outcome?.isSome).map (·.path)) ∧
    (∃ selected late, select env.system env.counter settings paths = .ok selected ∧
      (analyze env settings paths).log =
        selected.log ++ (env.readManifest root).log ++ late ∧
      late.Perm (d.files.filterMap fun f =>
        (fateAt env settings.parseTimeout root f.path).record? f.path)) ∧
    (∀ f ∈ d.files,
      ((fateAt env settings.parseTimeout root f.path).record? f.path).isSome = true ↔
        (Language.ofPath? ⟨f.path⟩).isSome = true ∧ d.insights.get? f.path = none) ∧
    ∀ pick limit, Settings.poolTooLarge { settings with maxConcurrent := limit } = false →
      (analyze { env with pick := pick } { settings with maxConcurrent := limit } paths).ending
          = .digest d ∧
        (analyze { env with pick := pick } { settings with maxConcurrent := limit } paths).log
          = (analyze env settings paths).log := by
  obtain ⟨selected, hs, hp⟩ := ending_eq_digest h
  obtain ⟨found, hselects⟩ := selects_of_select hs
  have hr := readable_of_select hs
  have hrun := analyze_eq hs hp
  rw [hrun] at h
  cases h
  rw [hrun]
  have hentry : ∀ p i, (answersFor env settings selected.value).insights.value.get? p = some i ↔ _ :=
    get?_insights_askAll hr settings.parseTimeout settings.extractionLimit
  refine ⟨selected.value.root, hselects.rooted, rfl, ?_, ?_, ?_, ?_, ?_⟩
  · intro p i
    rw [← fateAt_eq_insights_iff]
    exact hentry p i
  · have hasked := asked_askAll_perm env settings.extractionLimit
      (tasksOf env settings.parseTimeout selected.value).value
    rw [outcomesOf_tasksOf hr, map_fst_filterMap_outcome] at hasked
    exact hasked
  · refine ⟨selected, _, hs, List.append_assoc _ _ _, ?_⟩
    rw [answersFor, insights_askAll, gatherInsights_log, outcomesOf_tasksOf hr, log_tasksOf hr]
    exact records_perm (fateAt env settings.parseTimeout selected.value.root)
      selected.value.collection.files
  · intro f hf
    obtain ⟨source, hsource⟩ := hr.exists_source hf
    refine (record?_isSome_iff hsource).trans (and_congr_right fun _ => ?_)
    rw [Option.eq_none_iff_forall_ne_some]
    exact forall_congr' fun i => not_congr
      ((hentry f.path i).trans (and_iff_right ⟨f, hf, rfl⟩)).symm
  · intro pick limit hlimit
    have hs' : select env.system env.counter { settings with maxConcurrent := limit } paths
        = .ok selected := hs
    rw [@analyze_eq { env with pick := pick } _ _ _ hs' hlimit]
    simp only [answersFor, insights_askAll]
    exact ⟨rfl, rfl⟩

def sampleReply : String := "[[], [], []]"

theorem ofAnswer_sampleReply : ∃ v, Reply.parse sampleReply = .ok v ∧ v ≠ .null ∧
    Insights.ofJson v = .ok ⟨[], [], []⟩ :=
  ⟨.array [.array [], .array [], .array []], rfl, by simp, rfl⟩

def sampleEnvironment : Environment where
  system := (Files.Memory.mk [(⟨"readme.rs"⟩, "x"), (⟨"setup.py"⟩, " ")] []).system
  counter := .estimate 2048
  load := fun _ => .ok Syntax.Grammar.plain
  readManifest := fun _ => ⟨none, []⟩
  model := fun _ => .text sampleReply
  sampling := .default
  pick := fun n => n
  now := 0

def sampleFiles : List FileRecord := [⟨"readme.rs", 1, none⟩, ⟨"setup.py", 1, none⟩]

def samplePieces : List Scan.Piece :=
  [⟨Scan.withPriority ⟨"readme.rs", 1, none⟩, "x", 14⟩,
    ⟨Scan.withPriority ⟨"setup.py", 1, none⟩, " ", 13⟩]

theorem resolveRoot_sample :
    resolveRoot sampleEnvironment.system .default [⟨"readme.rs"⟩, ⟨"setup.py"⟩] = .ok ⟨""⟩ := by
  decide +kernel

theorem select_sample :
    select sampleEnvironment.system sampleEnvironment.counter .default
        [⟨"readme.rs"⟩, ⟨"setup.py"⟩] =
      .ok ⟨⟨⟨""⟩, samplePieces.map (·.file), .ofPieces samplePieces⟩,
        [Scan.foundRecord ⟨""⟩ 2, Scan.collectedRecord (.ofPieces samplePieces) 2 1024]⟩ := by
  have hfound : discover sampleEnvironment.system .default ⟨""⟩ [⟨"readme.rs"⟩, ⟨"setup.py"⟩] =
      .ok ⟨[⟨"readme.rs"⟩, ⟨"setup.py"⟩], [Scan.foundRecord ⟨""⟩ 2]⟩ := by
    decide +kernel
  have hfiles : Scan.describe sampleEnvironment.system .default ⟨""⟩ [⟨"readme.rs"⟩, ⟨"setup.py"⟩] =
      ⟨sampleFiles, []⟩ := by
    decide +kernel
  have hordered : Scan.prioritize sampleFiles = samplePieces.map (·.file) := by
    apply List.mergeSort_of_pairwise
    decide +kernel
  have hcollect : Scan.collect sampleEnvironment.system sampleEnvironment.counter ⟨""⟩ 1024
      (samplePieces.map (·.file)) = .ok ⟨.ofPieces samplePieces,
        [Scan.collectedRecord (.ofPieces samplePieces) 2 1024]⟩ := by
    decide +kernel
  have hceiling : Settings.default.ceiling sampleEnvironment.counter.window = 1024 := by
    decide +kernel
  have hscan : Settings.default.scan = .default := rfl
  have hsome : sampleFiles.isEmpty = false := rfl
  simp only [select, resolveRoot_sample, hscan, hfound, hfiles, hsome, hordered, hceiling, hcollect]
  rfl

theorem insights_of_digest_sample :
    ∃ d, (analyze sampleEnvironment .default [⟨"readme.rs"⟩, ⟨"setup.py"⟩]).ending = .digest d ∧
      d.insights.get? "readme.rs" = some ⟨[], [], []⟩ ∧ d.insights.get? "setup.py" = none := by
  have hending := congrArg Run.ending (analyze_eq select_sample (by decide))
  obtain ⟨root, hroot, -, hentry, -, -, hrecord, -⟩ := insights_of_digest hending
  cases hroot.symm.trans resolveRoot_sample
  refine ⟨_, hending, ?_, ?_⟩
  · obtain ⟨v, hv⟩ := ofAnswer_sampleReply
    refine (hentry "readme.rs" ⟨[], [], []⟩).2 ⟨⟨_, List.mem_cons_self, rfl⟩, ?_⟩
    exact ⟨.rust, "x", .plain, _, sampleReply, v, by decide +kernel, by decide +kernel,
      by decide +kernel, rfl, rfl, rfl, hv⟩
  · refine ((hrecord _ (List.mem_cons_of_mem _ List.mem_cons_self)).1 ?_).2
    decide +kernel

def slowGrammar : Syntax.Grammar where
  refusal := none
  tree limit source := if limit.isSome then none else Syntax.Grammar.plain.tree limit source

def slowEnvironment : Environment := { sampleEnvironment with load := fun _ => .ok slowGrammar }

def hurriedSettings : Settings := { Settings.default with parseTimeout := some ⟨1000⟩ }

theorem insights_missing_hurried :
    ∃ d, (analyze slowEnvironment hurriedSettings [⟨"readme.rs"⟩, ⟨"setup.py"⟩]).ending =
        .digest d ∧
      (∃ f ∈ d.files, f.path = "readme.rs") ∧ Language.ofPath? ⟨"readme.rs"⟩ = some .rust ∧
      slowEnvironment.system.read (Path.join ⟨""⟩ "readme.rs") = .ok "x" ∧
      Syntax.isBlankText "x" = false ∧ slowEnvironment.load .rust = .ok slowGrammar ∧
      slowGrammar.refusal = none ∧ (∀ r, slowEnvironment.model r = .text sampleReply) ∧
      (∃ v, Reply.parse sampleReply = .ok v ∧ v ≠ .null ∧
        Insights.ofJson v = .ok ⟨[], [], []⟩) ∧
      d.insights.get? "readme.rs" = none ∧
      (analyze slowEnvironment hurriedSettings [⟨"readme.rs"⟩, ⟨"setup.py"⟩]).asked = [] := by
  have hselect : select slowEnvironment.system slowEnvironment.counter hurriedSettings
      [⟨"readme.rs"⟩, ⟨"setup.py"⟩] = .ok _ := select_sample
  have hrun := analyze_eq hselect (by decide)
  have htasks : (tasksOf slowEnvironment hurriedSettings.parseTimeout
      ⟨⟨""⟩, samplePieces.map (·.file), .ofPieces samplePieces⟩).value = [] :=
    List.isEmpty_iff.1 (by decide +kernel)
  rw [hrun]
  refine ⟨_, rfl, ⟨_, List.mem_cons_self, rfl⟩, by decide +kernel, by decide +kernel,
    by decide +kernel, rfl, rfl, fun _ => rfl, ofAnswer_sampleReply, ?_, ?_⟩
  · rw [digestOf, answersFor, htasks]
    rfl
  · rw [answersFor, htasks]
    rfl

end SourceDigest.Analysis
