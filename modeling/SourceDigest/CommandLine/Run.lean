import SourceDigest.CommandLine.Arguments
import SourceDigest.CommandLine.Report
import SourceDigest.Configuration.Reader
import SourceDigest.Model.Chat

namespace SourceDigest.CommandLine

open Files (Disk)
open Json (Value)
open Syntax (Grammar Language)
open SourceDigest.Configuration (Variables)

structure Surroundings where
  values : Variables
  send : Model.Transport
  load : Language → Except Syntax.Error Grammar
  pick : Nat → Nat
  now : UInt64

structure Outcome where
  code : Nat
  printed : String
  report : Option String
  log : List LogRecord
  deriving DecidableEq, Repr

namespace Outcome

def success (printed : String) (log : List LogRecord) : Outcome := ⟨0, printed, none, log⟩

def failure (message : String) (causes : List String) (log : List LogRecord) : Outcome :=
  ⟨1, "", some (CommandLine.report message causes), log⟩

def misuse : Outcome := ⟨2, "", none, []⟩

def broken (log : List LogRecord) : Outcome := ⟨101, "", none, log⟩

end Outcome

def absolute (disk : Disk) (p : Path) : Path :=
  match disk.canonical p with
  | .ok p => p
  | .error _ => if p.isAbsolute then p else disk.workingPath.join p.bytes

def defaultRoot (disk : Disk) : List Path → Path
  | [] => absolute disk ⟨"."⟩
  | first :: _ => if disk.isFile first then first.parent?.getD first else first

def configure (s : Surroundings) (disk : Disk) (given : Option Path) (root : Path) :
    Except Configuration.Error Configuration :=
  match Configuration.load disk given root with
  | .error e => .error e
  | .ok c => c.overlay s.values

def scanOutput (root : Path) (files : List FileRecord) : Value :=
  .object [("root", .string root.text), ("files", .array (files.map FileRecord.toJson))]

def runScan (s : Surroundings) (disk : Disk) (a : ScanArguments) : Outcome :=
  let root := absolute disk a.root
  match configure s disk a.config root with
  | .error e => .failure e.message e.reasons []
  | .ok c =>
    let options := (c.settings none).scan
    match Scan.discover disk.system options root with
    | .error e => .failure e.message (scanReasons e) []
    | .ok found =>
      let described := Scan.describe disk.system options root found.value
      let files := Scan.prioritize described.value
      .success ((scanOutput root files).pretty ++ "\n") (found.log ++ described.log)

def AnalyzeArguments.override (a : AnalyzeArguments) (c : Configuration) : Configuration :=
  { c with analysis := { c.analysis with
    tokenCeiling := a.tokenCeiling.or c.analysis.tokenCeiling
    keepSnapshot := a.keepSnapshot && c.analysis.keepSnapshot } }

def snapshotSink (c : Configuration) (root : Path) : Option (Analysis.Sink Disk) :=
  if c.analysis.keepSnapshot then
    some (Snapshot.write (c.analysis.snapshotDirectory.map fun d => root.join d.bytes))
  else none

def endpointOf (c : Configuration) (values : Variables) :
    Except (String × List String) Model.Endpoint :=
  match c.provider values with
  | .error e => .error (e.message, e.reasons)
  | .ok p =>
    (Model.Endpoint.ofSettings p.baseUrl p.model p.key).mapError fun f =>
      ("Failed to set up the model provider", [f.message])

def deliver (disk : Disk) (output : Option Path) (d : Digest) (log : List LogRecord) :
    Outcome × Disk :=
  let text := d.toJson.pretty ++ "\n"
  match output with
  | none => (.success text log, disk)
  | some path =>
    match disk.write path (Text.Utf8.encode text) with
    | .ok disk => (.success "" log, disk)
    | .error cause => (.failure ("Failed to write " ++ path.text) [cause.message] log, disk)

def rootOf (disk : Disk) (a : AnalyzeArguments) (paths : List Path) : Path :=
  match a.root with
  | some root => absolute disk root
  | none => defaultRoot disk paths

structure Plan where
  root : Path
  paths : List Path
  configuration : Configuration
  endpoint : Model.Endpoint
  deriving DecidableEq, Repr

namespace Plan

def ofArguments (s : Surroundings) (disk : Disk) (a : AnalyzeArguments) : Except Outcome Plan :=
  let paths := a.paths.map (absolute disk)
  let root := rootOf disk a paths
  match configure s disk a.config root with
  | .error e => .error (.failure e.message e.reasons [])
  | .ok c =>
    let c := a.override c
    match endpointOf c s.values with
    | .error (message, causes) => .error (.failure message causes [])
    | .ok e => .ok ⟨root, if paths.isEmpty then [root] else paths, c, e⟩

def environment (p : Plan) (s : Surroundings) (disk : Disk) : Analysis.Environment where
  system := disk.system
  counter := .estimate p.configuration.model.contextWindow
  load := s.load
  readManifest := Manifest.read disk.system
  model := p.endpoint.ask s.send
  sampling := ⟨p.configuration.model.temperature, p.configuration.model.maxTokens⟩
  pick := s.pick
  now := s.now

def settings (p : Plan) : Analysis.Settings := p.configuration.settings (some p.root)

def analyze (p : Plan) (s : Surroundings) (disk : Disk) : Analysis.Run :=
  Analysis.analyze (p.environment s disk) p.settings p.paths

def postings (p : Plan) (s : Surroundings) (disk : Disk) : List Model.Posting :=
  (Analysis.requests (p.environment s disk) p.settings p.paths).filterMap fun r =>
    (p.endpoint.posting r).toOption

theorem analyze_congr {p : Plan} {s : Surroundings} {send : Model.Transport} {disk : Disk}
    (h : ∀ m ∈ p.postings s disk, send m = s.send m) :
    p.analyze { s with send := send } disk = p.analyze s disk :=
  Analysis.analyze_congr fun r hr => p.endpoint.ask_congr fun m hm =>
    h m (List.mem_filterMap.2 ⟨r, hr, by rw [hm]; rfl⟩)

end Plan

def runAnalyze (s : Surroundings) (disk : Disk) (a : AnalyzeArguments) : Outcome × Disk :=
  match Plan.ofArguments s disk a with
  | .error outcome => (outcome, disk)
  | .ok p =>
    let (run, disk) := (p.analyze s disk).keep (snapshotSink p.configuration p.root) disk
    match run.ending with
    | .failed e =>
      (.failure ("Analysis of " ++ p.root.text ++ " failed") (analysisMessages e) run.log, disk)
    | .noPool => (.broken run.log, disk)
    | .digest d => deliver disk a.output d run.log

def pathsOf : Invocation → List Path × List Path
  | .analyze a =>
    let roots := a.paths ++ a.root.toList
    (if roots.isEmpty then [⟨"."⟩] else roots, a.config.toList ++ a.output.toList)
  | .scan a => ([a.root], a.config.toList)
  | _ => ([], [])

def variablesOf (disk : Disk) (i : Invocation) : List String :=
  let fixed := [Configuration.baseUrlVariable, Configuration.modelVariable,
    Configuration.windowVariable, Configuration.ceilingVariable,
    Configuration.concurrencyVariable]
  match i with
  | .analyze a =>
    match Configuration.load disk a.config (rootOf disk a (a.paths.map (absolute disk))) with
    | .ok c => c.model.keyVariable :: fixed
    | .error _ => fixed
  | _ => fixed

def planOf (s : Surroundings) (disk : Disk) : Invocation → Option Plan
  | .analyze a => (Plan.ofArguments s disk a).toOption
  | _ => none

def run (s : Surroundings) (disk : Disk) (args : List String) : Outcome × Disk :=
  match Invocation.ofArguments args with
  | .misuse => (.misuse, disk)
  | .print text => (.success text [], disk)
  | .scan a => (runScan s disk a, disk)
  | .analyze a => runAnalyze s disk a

end SourceDigest.CommandLine
