import SourceDigest.Duration
import SourceDigest.Syntax.Language
import SourceDigest.Syntax.Node
import SourceDigest.Text.Blank

namespace SourceDigest.Syntax

inductive Error where
  | parse (message : String)
  | unsupported (path : String)
  | grammarLoad (language message : String)
  | emptyContent
  deriving DecidableEq, Repr

def Error.message : Error → String
  | .parse message => "Parse error: " ++ message
  | .unsupported path => "Unsupported language: " ++ path
  | .grammarLoad language message => "Grammar load failed for " ++ language ++ ": " ++ message
  | .emptyContent => "Empty content provided"

/-- What a parser says that cannot take the grammar, and the tree it makes of a text, if any, in so
many microseconds. -/
structure Grammar where
  refusal : Option String
  tree : Option UInt64 → String → Option Node

def maxTreeDepth : Nat := 1024

def Node.cut : Nat → Node → Node
  | 0, n => { n with children := [] }
  | depth + 1, n => { n with children := n.children.map (cut depth) }

namespace Grammar

def plain : Grammar := ⟨none, fun _ s => some ⟨"program", s, ⟨0, 0⟩, ⟨0, 0⟩, true, none, []⟩⟩

def noTree (l : Language) : Option Duration → Error
  | some timeout => .parse (l.name ++ " parse exceeded " ++ timeout.text)
  | none => .parse (l.name ++ " parser produced no tree")

def parse (g : Grammar) (l : Language) (timeout : Option Duration) (content : String) :
    Except Error Node :=
  match g.refusal with
  | some message => .error (.grammarLoad l.name message)
  | none =>
    match g.tree (timeout.map Duration.micros) content with
    | some tree => .ok (tree.cut maxTreeDepth)
    | none => .error (noTree l timeout)

end Grammar

abbrev Grammars (γ : Type) := List (Language × γ)

structure Request (γ : Type) where
  answer : Except Error γ
  grammars : Grammars γ
  loads : Bool

namespace Grammars

variable {γ : Type}

def get? (g : Grammars γ) (l : Language) : Option γ := List.lookup l g

def request (g : Grammars γ) (load : Except Error γ) (l : Language) : Request γ :=
  match g.get? l with
  | some grammar => ⟨.ok grammar, g, false⟩
  | none =>
    match load with
    | .error e => ⟨.error e, g, true⟩
    | .ok grammar => ⟨.ok grammar, (l, grammar) :: g, true⟩

theorem request_of_get? {g : Grammars γ} {l : Language} {grammar : γ} (h : g.get? l = some grammar)
    (load : Except Error γ) : g.request load l = ⟨.ok grammar, g, false⟩ := by
  simp [request, h]

end Grammars

def isBlankText (s : String) : Bool := (Text.trimChars s.toList).isEmpty

def parse (g : Grammars Grammar) (load : Language → Except Error Grammar)
    (timeout : Option Duration) (content : String) (l : Language) :
    Except Error Node × Grammars Grammar :=
  if isBlankText content then (.error .emptyContent, g)
  else
    let r := g.request (load l) l
    match r.answer with
    | .error e => (.error e, r.grammars)
    | .ok grammar => (grammar.parse l timeout content, r.grammars)

def parseFile (g : Grammars Grammar) (load : Language → Except Error Grammar)
    (timeout : Option Duration) (content : String) (p : Path) :
    Except Error Node × Grammars Grammar :=
  match Language.ofPath? p with
  | none => (.error (.unsupported p.text), g)
  | some l => parse g load timeout content l

end SourceDigest.Syntax
