import SourceDigest.Proofs.Syntax.Traversal
import SourceDigest.Syntax.Condense

namespace SourceDigest.Syntax

namespace Contribution

theorem append_empty (c : Contribution) : c ++ empty = c := by
  show append c empty = c
  have houtline : c.outline ++ Outline.empty = c.outline := Outline.append_empty c.outline
  simp [append, empty, houtline]

theorem foldl_append {α : Type} (f : α → Contribution) (xs : List α) (c : Contribution) :
    xs.foldl (fun gathered x => gathered ++ f x) c = c ++ concat (xs.map f) := by
  induction xs generalizing c with
  | nil => exact (append_empty c).symm
  | cons x xs ih => rw [List.foldl_cons, ih, List.map_cons, concat, append_assoc]

theorem concat_map_flatMap {α β : Type} (f : β → Contribution) (g : α → List β) (xs : List α) :
    concat ((xs.flatMap g).map f) = concat (xs.map fun x => concat ((g x).map f)) := by
  induction xs with
  | nil => rfl
  | cons x xs ih => rw [List.flatMap_cons, List.map_append, concat_append, ih, List.map_cons, concat]

theorem read_concat {α β : Type} {read : Contribution → List β} (hempty : read empty = [])
    (happend : ∀ a b, read (a ++ b) = read a ++ read b) (f : α → Contribution) (xs : List α) :
    read (concat (xs.map f)) = xs.flatMap fun x => read (f x) := by
  induction xs with
  | nil => exact hempty
  | cons x xs ih => rw [List.map_cons, concat, happend, ih, List.flatMap_cons]

end Contribution

open Contribution

namespace Node

def named (kind text : String) (field : Option String) (children : List Node) : Node :=
  ⟨kind, text, ⟨0, 0⟩, ⟨0, 0⟩, true, field, children⟩

theorem contributions_eq (n : Node) : n.contributions = concat (n.preorder.map contribution) := by
  rw [contributions, descendants_eq_preorder, foldl_append, empty_append]

theorem contributions_cons (n : Node) :
    n.contributions = n.contribution ++ concat (n.children.map contributions) := by
  have hchildren : n.children.map contributions
      = n.children.map fun c => concat (c.preorder.map contribution) :=
    List.map_congr_left fun c _ => contributions_eq c
  rw [contributions_eq, preorder_cons, List.map_cons, concat, concat_map_flatMap, hchildren]

section Read

variable {β : Type} {read : Contribution → List β}

theorem read_contributions (hempty : read empty = [])
    (happend : ∀ a b, read (a ++ b) = read a ++ read b) (n : Node) :
    read n.contributions = n.preorder.flatMap fun d => read d.contribution := by
  rw [contributions_eq, read_concat hempty happend]

theorem read_contributions_cons (hempty : read empty = [])
    (happend : ∀ a b, read (a ++ b) = read a ++ read b) (n : Node) :
    read n.contributions
      = read n.contribution ++ n.children.flatMap fun c => read c.contributions := by
  rw [contributions_cons, happend, read_concat hempty happend]

end Read

theorem contribution_of_class {n : Node} {nameField : String}
    (h : Construct.ofKind? n.kind = some (.class nameField)) :
    (∃ c, n.contribution = ofClass c) ∨ n.contribution = skip n .namelessClass := by
  simp only [contribution, h, classContribution]
  split
  · exact Or.inl ⟨_, rfl⟩
  · exact Or.inr rfl

def isFunction (n : Node) : ParameterRule → Bool
  | .field _ => true
  | .value name kinds => (n.child? name).any fun v => kinds.contains v.kind

theorem parameterNode?_eq_none_iff (n : Node) (rule : ParameterRule) :
    n.parameterNode? rule = none ↔ n.isFunction rule = false := by
  cases rule with
  | field name => simp [parameterNode?, isFunction]
  | value name kinds =>
    cases hv : n.child? name with
    | none => simp [parameterNode?, isFunction, hv]
    | some v => simp [parameterNode?, isFunction, hv]

theorem contribution_of_function {n : Node} {rule : FunctionRule}
    (h : Construct.ofKind? n.kind = some (.function rule)) :
    if n.isFunction rule.parameters then
      (∃ f, n.contribution = ofFunction f) ∨ n.contribution = skip n .namelessFunction
    else n.contribution = .empty := by
  have hnone := parameterNode?_eq_none_iff n rule.parameters
  simp only [contribution, h, functionContribution]
  cases hholder : n.parameterNode? rule.parameters with
  | none => simp [hnone.1 hholder]
  | some holder =>
    have hfunction : n.isFunction rule.parameters = true := by simpa [hholder] using hnone
    rw [if_pos hfunction]
    cases n.declaredName? rule.nameField with
    | none => exact Or.inr rfl
    | some name =>
      left
      cases holder with
      | none => exact ⟨_, rfl⟩
      | some list =>
        cases hlist : list.isParameterList with
        | true => exact ⟨_, if_pos hlist⟩
        | false => exact ⟨_, if_neg (by simp [hlist])⟩

def needsSource (n : Node) : ImportRule → Bool
  | .field _ => true
  | .optionalField _ => false
  | .fieldOrEach _ _ => true
  | .call callees => (n.child? "function").any fun callee => callees.contains (Text.trim callee.text)

theorem callContribution_of_import {n : Node} {callees : List String}
    (h : n.needsSource (.call callees) = true) :
    (∃ source, n.callContribution callees = ofImports [source])
      ∨ ∃ reason, n.callContribution callees = skip n reason := by
  obtain ⟨callee, hcallee, hin⟩ := (Option.any_eq_true _ _).1 h
  simp only [callContribution, hcallee, if_pos hin]
  cases (n.child? "arguments").bind (·.namedChildren.head?) with
  | none => exact Or.inr ⟨_, rfl⟩
  | some argument =>
    by_cases hliteral : literalKinds.contains argument.kind = true
    · simp only [if_pos hliteral]
      cases argument.plainText? with
      | none => exact Or.inr ⟨_, rfl⟩
      | some source => exact Or.inl ⟨source, rfl⟩
    · simp only [if_neg hliteral]
      exact Or.inr ⟨_, rfl⟩

theorem importContribution_of_needsSource {n : Node} {rule : ImportRule}
    (h : n.needsSource rule = true) :
    (∃ sources, sources ≠ [] ∧ n.importContribution rule = ofImports sources)
      ∨ ∃ reason, n.importContribution rule = skip n reason := by
  cases rule with
  | field name =>
    rw [importContribution]
    cases (n.findField? name).bind plainText? with
    | none => exact Or.inr ⟨_, rfl⟩
    | some source => exact Or.inl ⟨[source], List.cons_ne_nil _ _, rfl⟩
  | optionalField name => simp [needsSource] at h
  | fieldOrEach name each =>
    rw [importContribution]
    cases (n.findField? name).bind plainText? with
    | some source => exact Or.inl ⟨[source], List.cons_ne_nil _ _, rfl⟩
    | none =>
      cases (n.childrenUnder each).filterMap fun c => ((c.child? "name").getD c).plainText? with
      | nil => exact Or.inr ⟨_, rfl⟩
      | cons source sources => exact Or.inl ⟨source :: sources, List.cons_ne_nil _ _, rfl⟩
  | call callees =>
    rw [importContribution]
    obtain ⟨source, hsource⟩ | hskip := callContribution_of_import h
    · exact Or.inl ⟨[source], List.cons_ne_nil _ _, hsource⟩
    · exact Or.inr hskip

theorem importContribution_of_not_needsSource {n : Node} {rule : ImportRule}
    (h : n.needsSource rule = false) :
    ∃ source : Option String, n.importContribution rule = ofImports source.toList := by
  cases rule with
  | field name => simp [needsSource] at h
  | optionalField name => exact ⟨_, rfl⟩
  | fieldOrEach name each => simp [needsSource] at h
  | call callees =>
    refine ⟨none, ?_⟩
    rw [importContribution, callContribution]
    cases hcallee : n.child? "function" with
    | none => rfl
    | some callee =>
      have hout : callees.contains (Text.trim callee.text) = false := by
        simpa [needsSource, hcallee] using h
      simp only [hout]
      rfl

theorem contribution_of_imports {n : Node} {rule : ImportRule}
    (h : Construct.ofKind? n.kind = some (.imports rule)) :
    n.contribution = n.importContribution rule := by
  rw [contribution, h]

/-- The walk meets every node of the tree once, in preorder. Each list of the outline and the notes
are those of the single nodes in the order of the walk, and so the root's own followed by those of
its children. A node of a construct contributes one declaration, or imports, or one note. -/
theorem condense_compositional (n : Node) :
    (n.descendants = n.preorder
      ∧ n.addresses.map n.at? = n.descendants.map some
      ∧ (∀ a, a ∈ n.addresses ↔ (n.at? a).isSome = true)
      ∧ n.addresses.Pairwise (· < ·))
    ∧ (n.condense.imports = n.preorder.flatMap (·.contribution.outline.imports)
      ∧ n.condense.functions = n.preorder.flatMap (·.contribution.outline.functions)
      ∧ n.condense.classes = n.preorder.flatMap (·.contribution.outline.classes)
      ∧ n.skips = n.preorder.flatMap (·.contribution.skips))
    ∧ (n.condense.imports
        = n.contribution.outline.imports ++ n.children.flatMap (·.condense.imports)
      ∧ n.condense.functions
        = n.contribution.outline.functions ++ n.children.flatMap (·.condense.functions)
      ∧ n.condense.classes
        = n.contribution.outline.classes ++ n.children.flatMap (·.condense.classes)
      ∧ n.skips = n.contribution.skips ++ n.children.flatMap (·.skips))
    ∧ ∀ d : Node, match Construct.ofKind? d.kind with
      | none => d.contribution = .empty
      | some (.class _) =>
        (∃ c, d.contribution = ofClass c) ∨ d.contribution = skip d .namelessClass
      | some (.function rule) =>
        if d.isFunction rule.parameters then
          (∃ f, d.contribution = ofFunction f) ∨ d.contribution = skip d .namelessFunction
        else d.contribution = .empty
      | some (.imports rule) =>
        if d.needsSource rule then
          (∃ sources, sources ≠ [] ∧ d.contribution = ofImports sources)
            ∨ ∃ reason, d.contribution = skip d reason
        else ∃ source : Option String, d.contribution = ofImports source.toList := by
  have himports := @read_contributions_cons _ (·.outline.imports) rfl fun _ _ => rfl
  have hfunctions := @read_contributions_cons _ (·.outline.functions) rfl fun _ _ => rfl
  have hclasses := @read_contributions_cons _ (·.outline.classes) rfl fun _ _ => rfl
  have hskips := @read_contributions_cons _ (·.skips) rfl fun _ _ => rfl
  refine ⟨⟨descendants_eq_preorder n, ?_, mem_addresses_iff n, pairwise_addresses n⟩,
    ⟨?_, ?_, ?_, ?_⟩, ⟨himports n, hfunctions n, hclasses n, hskips n⟩, ?_⟩
  · rw [descendants_eq_preorder, map_at?_addresses]
  · exact @read_contributions _ (·.outline.imports) rfl (fun _ _ => rfl) n
  · exact @read_contributions _ (·.outline.functions) rfl (fun _ _ => rfl) n
  · exact @read_contributions _ (·.outline.classes) rfl (fun _ _ => rfl) n
  · exact @read_contributions _ (·.skips) rfl (fun _ _ => rfl) n
  · intro d
    split
    case h_1 h => rw [contribution, h]
    case h_2 h => exact contribution_of_class h
    case h_3 h => exact contribution_of_function h
    case h_4 rule h =>
      rw [contribution_of_imports h]
      cases hneeds : d.needsSource rule with
      | true => exact importContribution_of_needsSource hneeds
      | false => exact importContribution_of_not_needsSource hneeds

end Node

end SourceDigest.Syntax
