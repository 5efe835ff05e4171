import SourceDigest.Syntax.Construct
import SourceDigest.Outline
import SourceDigest.Text.Split

namespace SourceDigest.Syntax

open Text (trim trimChars)

def isQuote (c : Char) : Bool := c == '"' || c == '\x27' || c == '\x60'

def dequoteChars (s : List Char) : List Char :=
  let t := trimChars s
  match t with
  | c :: rest =>
    if isQuote c && rest.getLast? == some c then rest.dropLast else t
  | [] => []

def dequote (s : String) : String := String.ofList (dequoteChars s.toList)

def Node.plainText? (n : Node) : Option String :=
  let s := dequote n.text
  if s = "" then none else some s

inductive SkipReason where
  | noSource
  | emptySource
  | dynamicSource
  | namelessFunction
  | namelessClass
  deriving DecidableEq, Repr

def SkipReason.message : SkipReason → String
  | .noSource => "import without a module source"
  | .emptySource => "empty module specifier"
  | .dynamicSource => "dynamic module specifier"
  | .namelessFunction => "function without a name"
  | .namelessClass => "class without a name"

structure Skip where
  kind : String
  place : Place
  reason : SkipReason
  deriving DecidableEq, Repr

def Skip.message (s : Skip) : String :=
  "condense: skipping " ++ s.kind ++ " at " ++ toString (s.place.row + 1) ++ ":"
    ++ toString (s.place.column + 1) ++ " (" ++ s.reason.message ++ ")"

structure Contribution where
  outline : Outline
  skips : List Skip
  deriving DecidableEq, Repr

namespace Contribution

def empty : Contribution := ⟨.empty, []⟩

def append (a b : Contribution) : Contribution := ⟨a.outline ++ b.outline, a.skips ++ b.skips⟩

instance : Append Contribution := ⟨append⟩

def ofImports (sources : List String) : Contribution := ⟨⟨sources.map Import.mk, [], []⟩, []⟩

def ofFunction (f : Function) : Contribution := ⟨⟨[], [f], []⟩, []⟩

def ofClass (c : Class) : Contribution := ⟨⟨[], [], [c]⟩, []⟩

def skip (n : Node) (reason : SkipReason) : Contribution := ⟨.empty, [⟨n.kind, n.start, reason⟩]⟩

def concat : List Contribution → Contribution
  | [] => empty
  | c :: cs => c ++ concat cs

theorem empty_append (c : Contribution) : empty ++ c = c := rfl

theorem append_assoc (a b c : Contribution) : a ++ b ++ c = a ++ (b ++ c) := by
  show append (append a b) c = append a (append b c)
  simp only [append, Outline.append_assoc, List.append_assoc]

theorem concat_append (a b : List Contribution) : concat (a ++ b) = concat a ++ concat b := by
  induction a with
  | nil => rfl
  | cons c a ih => rw [List.cons_append, concat, concat, ih, append_assoc]

end Contribution

open Contribution

def Node.callContribution (n : Node) (callees : List String) : Contribution :=
  match n.child? "function" with
  | none => .empty
  | some callee =>
    if callees.contains (trim callee.text) then
      match (n.child? "arguments").bind (·.namedChildren.head?) with
      | some argument =>
        if literalKinds.contains argument.kind then
          match argument.plainText? with
          | some source => ofImports [source]
          | none => skip n .emptySource
        else skip n .dynamicSource
      | none => skip n .dynamicSource
    else .empty

def Node.importContribution (n : Node) : ImportRule → Contribution
  | .field name =>
    match (n.findField? name).bind plainText? with
    | some source => ofImports [source]
    | none => skip n .noSource
  | .optionalField name => ofImports ((n.child? name).bind plainText?).toList
  | .fieldOrEach name each =>
    match (n.findField? name).bind plainText? with
    | some source => ofImports [source]
    | none =>
      match (n.childrenUnder each).filterMap fun c => ((c.child? "name").getD c).plainText? with
      | [] => skip n .noSource
      | sources => ofImports sources
  | .call callees => n.callContribution callees

def Node.declaredName? (n : Node) (field : String) : Option String :=
  match n.child? field with
  | none => none
  | some name => if nameKinds.contains name.kind then name.plainText? else none

mutual

def Node.parameterName? : Node → Option String
  | ⟨kind, text, _, _, _, _, children⟩ =>
    if parameterSkipped.contains kind then none
    else if parameterIdentifiers.contains kind then
      let t := trim text
      if t = "" then none else some t
    else if parameterPatterns.contains kind then
      let t := String.ofList (Text.collapseBlanks text.toList)
      if t = "" then none else some t
    else
      match parameterNameFields.find? fun f => children.any fun c => c.field == some f with
      | some f => nameUnder? f children
      | none => firstName? children

def nameUnder? (field : String) : List Node → Option String
  | [] => none
  | c :: cs => if c.field == some field then c.parameterName? else nameUnder? field cs

def firstName? : List Node → Option String
  | [] => none
  | c :: cs =>
    if c.isNamed && !(c.field.any parameterOtherFields.contains) then
      match c.parameterName? with
      | some name => some name
      | none => firstName? cs
    else firstName? cs

end

def Node.parameterNames (list : Node) (receivers : List String) : List String :=
  let kept := list.namedChildren.filter fun c => !parameterSkipped.contains c.kind
  match kept.filterMap parameterName? with
  | [] => []
  | first :: rest => if receivers.contains first then rest else first :: rest

def Node.isParameterList (n : Node) : Bool := Text.contains "parameters".toList n.kind.toList

def Node.parameterNode? (n : Node) : ParameterRule → Option (Option Node)
  | .field name => some (n.child? name)
  | .value name kinds =>
    match n.child? name with
    | none => none
    | some v =>
      if kinds.contains v.kind then some ((v.child? "parameters").or (v.child? "parameter"))
      else none

def Node.functionContribution (n : Node) (rule : FunctionRule) : Contribution :=
  match n.parameterNode? rule.parameters with
  | none => .empty
  | some holder =>
    match n.declaredName? rule.nameField with
    | none => skip n .namelessFunction
    | some name =>
      match holder with
      | none => ofFunction ⟨name, []⟩
      | some list =>
        if list.isParameterList then ofFunction ⟨name, list.parameterNames rule.receivers⟩
        else ofFunction ⟨name, list.parameterName?.toList⟩

def Node.classContribution (n : Node) (nameField : String) : Contribution :=
  match n.declaredName? nameField with
  | some name => ofClass ⟨name⟩
  | none => skip n .namelessClass

def Node.contribution (n : Node) : Contribution :=
  match Construct.ofKind? n.kind with
  | none => .empty
  | some (.imports rule) => n.importContribution rule
  | some (.function rule) => n.functionContribution rule
  | some (.class nameField) => n.classContribution nameField

def Node.contributions (n : Node) : Contribution :=
  n.descendants.foldl (fun gathered d => gathered ++ d.contribution) .empty

def Node.condense (n : Node) : Outline := n.contributions.outline

def Node.skips (n : Node) : List Skip := n.contributions.skips

end SourceDigest.Syntax
