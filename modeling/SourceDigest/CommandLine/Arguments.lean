import SourceDigest.CommandLine.Command
import SourceDigest.Decimal.Unsigned
import SourceDigest.Path

namespace SourceDigest.CommandLine

open Text (splitOnce)

structure AnalyzeArguments where
  paths : List Path
  root : Option Path
  config : Option Path
  tokenCeiling : Option UInt64
  keepSnapshot : Bool
  output : Option Path
  deriving DecidableEq, Repr

structure ScanArguments where
  root : Path
  config : Option Path
  deriving DecidableEq, Repr

inductive Invocation where
  | analyze (a : AnalyzeArguments)
  | scan (a : ScanArguments)
  | print (text : String)
  | misuse
  deriving DecidableEq, Repr

structure Given where
  switches : List (String × String)
  operands : List String
  deriving DecidableEq, Repr

namespace Given

def empty : Given := ⟨[], []⟩

def has (g : Given) (name : String) : Bool := (g.switches.lookup name).isSome

def value? (g : Given) (name : String) : Option String := g.switches.lookup name

def path? (g : Given) (name : String) : Option Path := (g.value? name).map Path.ofText

end Given

inductive Stop where
  | print (text : String)
  | misuse
  deriving DecidableEq, Repr

def maxCount : Nat := UInt64.size - 1

def count? (s : String) : Option UInt64 :=
  (Decimal.readUnsigned maxCount s.toList).toOption.map UInt64.ofNat

def Effect.accepts : Effect → String → Bool
  | .path _, s => !s.isEmpty
  | .count _, s => (count? s).isSome
  | _, _ => true

def Effect.takesOperand : Effect → Bool
  | .path _ => true
  | .count _ => true
  | _ => false

def versionText : String := programName ++ " " ++ version ++ "\n"

def accept (c : Command) (g : Given) (s : Switch) (operand : String) : Except Stop Given :=
  match s.effect with
  | .help => .error (.print c.help)
  | .version => .error (.print versionText)
  | e =>
    if g.has s.long || !e.accepts operand then .error .misuse
    else .ok { g with switches := g.switches ++ [(s.long, operand)] }

def readLetters (c : Command) : List Char → Given → Except Stop (Given × Option Switch)
  | [], g => .ok (g, none)
  | letter :: rest, g =>
    match c.switches.find? fun s => s.short == some letter with
    | none => .error .misuse
    | some s =>
      if s.effect.takesOperand then
        match rest with
        | [] => .ok (g, some s)
        | '=' :: operand => (accept c g s (String.ofList operand)).map fun g => (g, none)
        | operand => (accept c g s (String.ofList operand)).map fun g => (g, none)
      else
        match accept c g s "" with
        | .error e => .error e
        | .ok g => readLetters c rest g

def readLong (c : Command) (name : List Char) (g : Given) : Except Stop (Given × Option Switch) :=
  let (name, operand) := match splitOnce '=' name with
    | some (name, operand) => (name, some (String.ofList operand))
    | none => (name, none)
  match c.switches.find? fun s => s.long.toList == name with
  | none => .error .misuse
  | some s =>
    match s.effect.takesOperand, operand with
    | true, none => .ok (g, some s)
    | true, some operand => (accept c g s operand).map fun g => (g, none)
    | false, none => (accept c g s "").map fun g => (g, none)
    | false, some _ => .error .misuse

def isSwitchLike (arg : String) : Bool :=
  match arg.toList with
  | '-' :: _ :: _ => true
  | _ => false

abbrev Read := Given × Option (String × List String)

def takeOperands (c : Command) (g : Given) (operands : List String) : Except Stop Given :=
  if (c.operands.isSome && operands.all (!·.isEmpty)) || operands.isEmpty then
    .ok { g with operands := g.operands ++ operands }
  else .error .misuse

def readArguments (c : Command) : Option Switch → List String → Given → Except Stop Read
  | some _, [], _ => .error .misuse
  | none, [], g => .ok (g, none)
  | some s, arg :: rest, g =>
    if isSwitchLike arg then .error .misuse
    else
      match accept c g s arg with
      | .error e => .error e
      | .ok g => readArguments c none rest g
  | none, arg :: rest, g =>
    match arg.toList with
    | ['-', '-'] => (takeOperands c g rest).map fun g => (g, none)
    | '-' :: '-' :: name =>
      match readLong c name g with
      | .error e => .error e
      | .ok (g, waiting) => readArguments c waiting rest g
    | '-' :: letter :: letters =>
      match readLetters c (letter :: letters) g with
      | .error e => .error e
      | .ok (g, waiting) => readArguments c waiting rest g
    | _ =>
      if (c.commands.map Prod.fst).contains arg then .ok (g, some (arg, rest))
      else
        match takeOperands c g [arg] with
        | .error e => .error e
        | .ok g => readArguments c none rest g

def isConsistent (g : Given) : Bool := !(g.has "quiet" && g.has "verbose")

def AnalyzeArguments.ofGiven (g : Given) : AnalyzeArguments where
  paths := g.operands.map Path.ofText
  root := g.path? "root"
  config := g.path? "config"
  tokenCeiling := (g.value? "token-ceiling").bind count?
  keepSnapshot := !g.has "no-snapshot"
  output := g.path? "output"

def ScanArguments.ofGiven (g : Given) : ScanArguments where
  root := (g.path? "root").getD ⟨"."⟩
  config := g.path? "config"

def readCommand (c : Command) (make : Given → Invocation) (args : List String) : Invocation :=
  match readArguments c none args .empty with
  | .error (.print text) => .print text
  | .error .misuse => .misuse
  | .ok (g, _) => if isConsistent g then make g else .misuse

def helpOn : List String → Invocation
  | [] => .print mainCommand.help
  | [name] =>
    match innerCommands.find? fun c => c.words == [name] with
    | some c => .print c.help
    | none => .misuse
  | _ => .misuse

def readInner (name : String) (args : List String) : Invocation :=
  match name with
  | "analyze" => readCommand analyzeCommand (fun g => .analyze (.ofGiven g)) args
  | "scan" => readCommand scanCommand (fun g => .scan (.ofGiven g)) args
  | _ => helpOn args

def Invocation.ofArguments (args : List String) : Invocation :=
  match readArguments mainCommand none args .empty with
  | .error (.print text) => .print text
  | .error .misuse => .misuse
  | .ok (_, none) => .misuse
  | .ok (g, some (name, rest)) =>
    match readInner name rest with
    | .analyze a => if isConsistent g then .analyze a else .misuse
    | .scan a => if isConsistent g then .scan a else .misuse
    | inner => inner

theorem ofArguments_nil : Invocation.ofArguments [] = .misuse := rfl

end SourceDigest.CommandLine
