import SourceDigest.Text.Split

namespace SourceDigest.CommandLine

inductive Effect where
  | mark
  | path (operand : String)
  | count (operand : String)
  | help
  | version
  deriving DecidableEq, Repr

structure Switch where
  long : String
  short : Option Char
  effect : Effect
  summary : String
  deriving DecidableEq, Repr

structure Command where
  words : List String
  summary : String
  operands : Option (String × String)
  commands : List (String × String)
  switches : List Switch
  deriving DecidableEq, Repr

def programName : String := "codebrief"

def version : String := "0.1.0"

def verbose : Switch := ⟨"verbose", some 'v', .mark, "Enable verbose logging"⟩

def quiet : Switch :=
  ⟨"quiet", some 'q', .mark,
    "Quiet mode: log only warnings/errors (stdout is reserved for JSON)"⟩

def helpSwitch : Switch := ⟨"help", some 'h', .help, "Print help"⟩

def versionSwitch : Switch := ⟨"version", some 'V', .version, "Print version"⟩

def configSwitch : Switch :=
  ⟨"config", none, .path "CONFIG", "Config file (defaults to codebrief.toml in the project root)"⟩

def analyzeCommand : Command where
  words := ["analyze"]
  summary := "Analyze a project and print its context as JSON"
  operands := some ("PATHS", "Files or directories to analyze (defaults to the project root)")
  commands := []
  switches := [
    ⟨"root", none, .path "ROOT",
      "Project root (defaults to the first path, or the current directory)"⟩,
    configSwitch,
    ⟨"token-ceiling", none, .count "TOKEN_CEILING",
      "Token ceiling for the assembled content"⟩,
    verbose,
    ⟨"no-snapshot", none, .mark, "Do not write the snapshot file"⟩,
    quiet,
    ⟨"output", some 'o', .path "OUTPUT", "Write the JSON result here instead of stdout"⟩,
    helpSwitch]

def scanCommand : Command where
  words := ["scan"]
  summary := "List analyzable files in priority order without calling a model"
  operands := none
  commands := []
  switches := [
    ⟨"root", none, .path "ROOT",
      "Project root (defaults to current directory) [default: .]"⟩,
    configSwitch, verbose, quiet, helpSwitch]

def helpCommand : Command where
  words := ["help"]
  summary := "Print this message or the help of the given subcommand(s)"
  operands := some ("COMMAND", "Print help for the subcommand(s)")
  commands := []
  switches := []

def innerCommands : List Command := [analyzeCommand, scanCommand, helpCommand]

def mainCommand : Command where
  words := []
  summary := "Token-budgeted project digests with per-file code insights"
  operands := none
  commands := innerCommands.map fun c => (" ".intercalate c.words, c.summary)
  switches := [verbose, quiet, helpSwitch, versionSwitch]

def columns (title : String) (rows : List (String × String)) : String :=
  if rows.isEmpty then ""
  else
    let width := rows.foldl (fun w r => max w r.1.length) 0
    "\n" ++ title ++ ":\n" ++ String.join (rows.map fun (name, summary) =>
      "  " ++ name ++ String.ofList (List.replicate (width - name.length) ' ') ++ "  " ++ summary
        ++ "\n")

def Switch.usage (s : Switch) : String :=
  (match s.short with
    | some c => "-" ++ String.singleton c ++ ", "
    | none => "    ")
  ++ "--" ++ s.long
  ++ (match s.effect with
    | .path operand => " <" ++ operand ++ ">"
    | .count operand => " <" ++ operand ++ ">"
    | _ => "")

def Command.usage (c : Command) : String :=
  " ".intercalate ((programName :: c.words)
    ++ (if c.switches.isEmpty then [] else ["[OPTIONS]"])
    ++ (if c.commands.isEmpty then [] else ["<COMMAND>"])
    ++ (c.operands.map fun o => "[" ++ o.1 ++ "]...").toList)

def Command.help (c : Command) : String :=
  c.summary ++ "\n\nUsage: " ++ c.usage ++ "\n"
    ++ columns "Commands" c.commands
    ++ columns "Arguments" (c.operands.map fun o => ("[" ++ o.1 ++ "]...", o.2)).toList
    ++ columns "Options" (c.switches.map fun s => (s.usage, s.summary))

end SourceDigest.CommandLine
