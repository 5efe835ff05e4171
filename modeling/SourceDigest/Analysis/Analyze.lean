import SourceDigest.Analysis.Pool
import SourceDigest.Analysis.Settings
import SourceDigest.Extraction.Extract
import SourceDigest.Manifest.Reader
import SourceDigest.Scan.Collect
import SourceDigest.Scan.Ranking
import SourceDigest.Snapshot
import SourceDigest.Syntax.Grammar
import SourceDigest.TechStack.Summary

namespace SourceDigest.Analysis

open Files (System)
open Syntax (Grammar Grammars Language Node)
open Extraction (Sampling)

structure Environment where
  system : System
  counter : TokenCounter
  load : Language → Except Syntax.Error Grammar
  readManifest : Path → Logged (Option Manifest)
  model : Model
  sampling : Sampling
  pick : Nat → Nat
  now : UInt64

inductive Error where
  | noPaths
  | discovery (e : Scan.Error)
  | noAnalyzableFiles (root : Path)
  | noContent (e : Scan.NothingCollected)
  deriving DecidableEq, Repr

def Error.message : Error → String
  | .noPaths => "No paths given to analyze"
  | .discovery e => "Discovery failed: " ++ e.message
  | .noAnalyzableFiles root => "No analyzable files found under " ++ root.text
  | .noContent e => e.message

def resolveRoot (system : System) (settings : Settings) : List Path → Except Error Path
  | [] => .error .noPaths
  | first :: _ =>
    match settings.root with
    | some root => .ok root
    | none =>
      if !system.hasEntry first || (system.isDirectory first).toOption == some true then .ok first
      else .ok (first.parent?.getD first)

def discover (system : System) (options : Scan.Options) (root : Path) (paths : List Path) :
    Except Scan.Error (Logged (List Path)) :=
  match paths with
  | [p] =>
    if p.same root then Scan.discover system options root
    else Scan.discoverEntries system options root [p]
  | ps => Scan.discoverEntries system options root ps

structure Selection where
  root : Path
  ordered : List FileRecord
  collection : Scan.Collection
  deriving DecidableEq, Repr

def select (system : System) (counter : TokenCounter) (settings : Settings) (paths : List Path) :
    Except Error (Logged Selection) :=
  match resolveRoot system settings paths with
  | .error e => .error e
  | .ok root =>
    match discover system settings.scan root paths with
    | .error e => .error (.discovery e)
    | .ok found =>
      let described := Scan.describe system settings.scan root found.value
      if described.value.isEmpty then .error (.noAnalyzableFiles root)
      else
        let ordered := Scan.prioritize described.value
        match Scan.collect system counter root (settings.ceiling counter.window) ordered with
        | .error e => .error (.noContent e)
        | .ok collected =>
          .ok ⟨⟨root, ordered, collected.value⟩, found.log ++ described.log ++ collected.log⟩

structure Task where
  path : String
  tree : Node
  deriving Repr

def Task.request (sampling : Sampling) (t : Task) : Model.Request :=
  Extraction.request sampling t.path t.tree.condense

def parseSources (load : Language → Except Syntax.Error Grammar) (timeout : Option Duration) :
    Grammars Grammar → List (String × String) → Logged (List Task)
  | _, [] => ⟨[], []⟩
  | grammars, (path, source) :: rest =>
    match Language.ofPath? ⟨path⟩ with
    | none => parseSources load timeout grammars rest
    | some language =>
      match Syntax.parse grammars load timeout source language with
      | (.ok tree, grammars) =>
        let tasks := parseSources load timeout grammars rest
        ⟨⟨path, tree⟩ :: tasks.value, tasks.log⟩
      | (.error e, grammars) =>
        let tasks := parseSources load timeout grammars rest
        ⟨tasks.value, warning ("Failed to parse " ++ path ++ ": " ++ e.message) :: tasks.log⟩

def gatherInsights (outcomes : List (String × Extraction.Outcome)) : Logged (Dict Insights) :=
  outcomes.foldl (fun acc (path, outcome) =>
    match outcome with
    | .insights i => ⟨acc.value.insert path i, acc.log⟩
    | .failed e =>
      ⟨acc.value,
        acc.log ++ [warning ("Insight extraction failed for " ++ path ++ ": " ++ e.message)]⟩
    | .abandoned =>
      ⟨acc.value, acc.log ++ [warning ("Insight extraction task for " ++ path ++ " aborted")]⟩)
    ⟨.empty, []⟩

structure Answers where
  insights : Logged (Dict Insights)
  asked : List String

def askAll (env : Environment) (limit : Option UInt64) (tasks : List Task) : Answers :=
  let pool : Pool := ⟨limit.map UInt64.toNat, env.pick⟩
  let results := pool.run
    (fun t => (t.path, Extraction.extract env.model env.sampling t.path t.tree)) tasks
  ⟨gatherInsights (Pool.inOrder tasks.length results), results.map (·.2.1)⟩

inductive Ending where
  | digest (d : Digest)
  | failed (e : Error)
  | noPool
  deriving DecidableEq

def Settings.poolTooLarge (settings : Settings) : Bool :=
  settings.extractionLimit.any (Pool.maxPlaces < ·.toNat)

structure Run where
  ending : Ending
  log : List LogRecord
  asked : List String

def tasksOf (env : Environment) (timeout : Option Duration) (s : Selection) :
    Logged (List Task) :=
  parseSources env.load timeout [] ((s.collection.files.map (·.path)).zip s.collection.sources)

def digestOf (env : Environment) (s : Selection) (manifest : Option Manifest)
    (insights : Dict Insights) : Digest where
  schemaVersion := Digest.currentVersion
  root := s.root.text
  techStack := TechStack.summarize s.ordered manifest
  manifest := manifest
  insights := insights
  files := s.collection.files
  content := s.collection.content
  totalTokens := UInt64.ofNat s.collection.totalTokens
  generatedAt := env.now

def examine (env : Environment) (settings : Settings) (selected : Logged Selection) : Run :=
  let s := selected.value
  let manifest := env.readManifest s.root
  let tasks := tasksOf env settings.parseTimeout s
  let log := selected.log ++ manifest.log ++ tasks.log
  if settings.poolTooLarge then ⟨.noPool, log, []⟩
  else
    let answers := askAll env settings.extractionLimit tasks.value
    ⟨.digest (digestOf env s manifest.value answers.insights.value), log ++ answers.insights.log,
      answers.asked⟩

def analyze (env : Environment) (settings : Settings) (paths : List Path) : Run :=
  match select env.system env.counter settings paths with
  | .error e => ⟨.failed e, [], []⟩
  | .ok selected => examine env settings selected

def requests (env : Environment) (settings : Settings) (paths : List Path) : List Model.Request :=
  match select env.system env.counter settings paths with
  | .error _ => []
  | .ok selected =>
    if settings.poolTooLarge then []
    else (tasksOf env settings.parseTimeout selected.value).value.map (Task.request env.sampling)

theorem askAll_congr {env : Environment} {model : Model} {limit : Option UInt64}
    {tasks : List Task}
    (h : ∀ t ∈ tasks, model (t.request env.sampling) = env.model (t.request env.sampling)) :
    askAll { env with model := model } limit tasks = askAll env limit tasks := by
  have hrun := Pool.run_congr ⟨limit.map UInt64.toNat, env.pick⟩
    (f := fun t : Task => (t.path, Extraction.extract model env.sampling t.path t.tree))
    (g := fun t : Task => (t.path, Extraction.extract env.model env.sampling t.path t.tree))
    fun t (ht : t ∈ tasks) => by
      simp only [Extraction.extract]
      rw [← Task.request, h t ht]
  simp only [askAll, hrun]

theorem analyze_congr {env : Environment} {model : Model} {settings : Settings} {paths : List Path}
    (h : ∀ r ∈ requests env settings paths, model r = env.model r) :
    analyze { env with model := model } settings paths = analyze env settings paths := by
  simp only [analyze, requests] at h ⊢
  split
  · rfl
  · rename_i selected hs
    rw [hs] at h
    simp only [examine]
    split
    · rfl
    · rename_i hp
      simp only [hp] at h
      have hask : askAll { env with model := model } settings.extractionLimit _ = _ :=
        askAll_congr fun t ht => h _ (List.mem_map_of_mem ht)
      have htasks : tasksOf { env with model := model } settings.parseTimeout selected.value =
          tasksOf env settings.parseTimeout selected.value := rfl
      rw [htasks, hask]
      rfl

abbrev Sink (σ : Type) := σ → Digest → Except Snapshot.Failure Path × σ

def Run.keep {σ : Type} (run : Run) (sink : Option (Sink σ)) (store : σ) : Run × σ :=
  match run.ending, sink with
  | .digest d, some sink =>
    match sink store d with
    | (.ok _, store) => (run, store)
    | (.error f, store) =>
      ({ run with log := run.log ++ [warning ("Snapshot not written: " ++ f.message)] }, store)
  | _, _ => (run, store)

end SourceDigest.Analysis
