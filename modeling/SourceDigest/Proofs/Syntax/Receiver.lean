import SourceDigest.Proofs.Syntax.Composition

namespace SourceDigest.Syntax.Node

open Contribution

def function? (n : Node) : Option Function := n.contribution.outline.functions.head?

theorem functions_importContribution (n : Node) (rule : ImportRule) :
    (n.importContribution rule).outline.functions = [] := by
  cases hneeds : n.needsSource rule with
  | true =>
    obtain ⟨_, -, hsources⟩ | ⟨_, hskip⟩ := importContribution_of_needsSource hneeds
    · rw [hsources]
      rfl
    · rw [hskip]
      rfl
  | false =>
    obtain ⟨_, hsource⟩ := importContribution_of_not_needsSource hneeds
    rw [hsource]
    rfl

theorem functions_contribution (n : Node) :
    n.contribution.outline.functions = n.function?.toList := by
  rw [function?]
  cases hkind : Construct.ofKind? n.kind with
  | none =>
    rw [contribution, hkind]
    rfl
  | some construct =>
    cases construct with
    | imports rule => simp [contribution_of_imports hkind, functions_importContribution]
    | «class» nameField =>
      obtain ⟨_, hclass⟩ | hskip := contribution_of_class hkind
      · rw [hclass]
        rfl
      · rw [hskip]
        rfl
    | function rule =>
      have hfunction := contribution_of_function hkind
      split at hfunction
      · obtain ⟨_, hone⟩ | hskip := hfunction
        · rw [hone]
          rfl
        · rw [hskip]
          rfl
      · rw [hfunction]
        rfl

theorem functions_condense (n : Node) :
    n.condense.functions
      = n.function?.toList ++ n.children.flatMap (·.condense.functions) := by
  rw [← functions_contribution]
  exact @read_contributions_cons _ (·.outline.functions) rfl (fun _ _ => rfl) n

def heldParameters (receivers : List String) (holder : Node) : List String :=
  if holder.isParameterList then holder.parameterNames receivers else holder.parameterName?.toList

theorem function?_of_holder {n holder : Node} {rule : FunctionRule}
    (hkind : Construct.ofKind? n.kind = some (.function rule))
    (hholder : n.parameterNode? rule.parameters = some (some holder)) :
    n.function? = (n.declaredName? rule.nameField).map fun name =>
      ⟨name, heldParameters rule.receivers holder⟩ := by
  simp only [function?, contribution, hkind, functionContribution, hholder]
  cases n.declaredName? rule.nameField with
  | none => rfl
  | some name =>
    rw [Option.map_some, heldParameters]
    cases hlist : holder.isParameterList <;> rfl

def behindReceiver (receivers names : List String) : List String :=
  if names.head?.any receivers.contains then names.tail else names

theorem parameterNames_eq (list : Node) (receivers : List String) :
    list.parameterNames receivers = behindReceiver receivers (list.parameterNames []) := by
  simp only [parameterNames]
  cases (list.namedChildren.filter _).filterMap parameterName? with
  | nil => rfl
  | cons first rest => simp [behindReceiver]

theorem heldParameters_eq (receivers : List String) (holder : Node) :
    heldParameters receivers holder =
      if holder.isParameterList then behindReceiver receivers (heldParameters [] holder)
      else heldParameters [] holder := by
  simp only [heldParameters]
  split
  · exact parameterNames_eq holder receivers
  · rfl

theorem behindReceiver_eq_self_iff {receivers names : List String} :
    behindReceiver receivers names = names ↔ ∀ first ∈ names.head?, first ∉ receivers := by
  cases names with
  | nil => simp [behindReceiver]
  | cons first rest =>
    by_cases hfirst : first ∈ receivers <;> simp [behindReceiver, hfirst]

section Declared

variable {d v e list : Node}

theorem function?_of_declaration
    (hkind : d.kind = "function_declaration" ∨ d.kind = "method_definition")
    (hlist : d.child? "parameters" = some list) :
    d.function? = (d.declaredName? "name").map fun name =>
      ⟨name, heldParameters ["this"] list⟩ := by
  have hrule : Construct.ofKind? d.kind
      = some (.function ⟨"name", .field "parameters", ["this"]⟩) := by
    rcases hkind with h | h <;> rw [h] <;> rfl
  exact function?_of_holder hrule (congrArg some hlist)

theorem function?_of_declarator (hkind : v.kind = "variable_declarator")
    (hvalue : v.child? "value" = some e)
    (hfunction : e.kind = "function_expression" ∨ e.kind = "generator_function")
    (hlist : e.child? "parameters" = some list) :
    v.function? = (v.declaredName? "name").map fun name => ⟨name, heldParameters [] list⟩ := by
  have hrule : Construct.ofKind? v.kind
      = some (.function ⟨"name", .value "value" Construct.functionValues, []⟩) := by
    rw [hkind]
    rfl
  have hcontains : Construct.functionValues.contains e.kind = true := by
    rcases hfunction with h | h <;> rw [h] <;> rfl
  apply function?_of_holder hrule
  simp only [parameterNode?, hvalue, if_pos hcontains, hlist, Option.some_or]

/-- A declared function is listed as the same function bound to its name, but for a receiver in
front of its parameters. So the two agree unless the list starts with one. -/
theorem function?_declared_bound
    (hdeclares : d.kind = "function_declaration" ∨ d.kind = "method_definition")
    (hbinds : v.kind = "variable_declarator") (hvalue : v.child? "value" = some e)
    (hfunction : e.kind = "function_expression" ∨ e.kind = "generator_function")
    (hname : d.child? "name" = v.child? "name")
    (hdeclared : d.child? "parameters" = some list)
    (hbound : e.child? "parameters" = some list) :
    (d.condense.functions = d.function?.toList ++ d.children.flatMap (·.condense.functions) ∧
      v.condense.functions = v.function?.toList ++ v.children.flatMap (·.condense.functions)) ∧
    v.function? = (v.declaredName? "name").map (fun name => ⟨name, heldParameters [] list⟩) ∧
    d.function? = v.function?.map (fun f =>
      if list.isParameterList then { f with parameters := behindReceiver ["this"] f.parameters }
      else f) ∧
    (d.function? = v.function? ↔ ∀ f, v.function? = some f → list.isParameterList = true →
      f.parameters.head? ≠ some "this") := by
  have hv := function?_of_declarator hbinds hvalue hfunction hbound
  have hsame : d.declaredName? "name" = v.declaredName? "name" := by
    simp only [declaredName?, hname]
  have hd : d.function? = v.function?.map (fun f =>
      if list.isParameterList then { f with parameters := behindReceiver ["this"] f.parameters }
      else f) := by
    rw [function?_of_declaration hdeclares hdeclared, hv, hsame, Option.map_map]
    congr 1
    funext name
    rw [Function.comp, heldParameters_eq]
    split <;> rfl
  refine ⟨⟨functions_condense d, functions_condense v⟩, hv, hd, ?_⟩
  rw [hd]
  cases v.function? with
  | none => simp
  | some f =>
    cases hlist : list.isParameterList with
    | false => simp
    | true =>
      have hrecord : ({ f with parameters := behindReceiver ["this"] f.parameters } : Function) = f
          ↔ behindReceiver ["this"] f.parameters = f.parameters := by
        cases f
        simp
      simp only [Option.map_some, if_true, Option.some_inj, hrecord, behindReceiver_eq_self_iff]
      constructor
      · rintro hfirst _ rfl - hthis
        exact hfirst "this" hthis List.mem_cons_self
      · intro hfirst first hhead hthis
        rw [List.mem_singleton.1 hthis] at hhead
        exact hfirst f rfl trivial hhead

end Declared

def parameter (pattern : Node) : Node := named "required_parameter" pattern.text none [pattern]

def parameterList (parameters : List Node) : Node :=
  named "formal_parameters" "" (some "parameters") parameters

def functionName : Node := named "identifier" "f" (some "name") []

def declaration (list : Node) : Node :=
  named "function_declaration" "" none [functionName, list]

def declarator (list : Node) : Node :=
  named "variable_declarator" "" none [
    functionName, named "function_expression" "" (some "value") [list]]

def plainList : Node :=
  parameterList [parameter (named "identifier" "a" (some "pattern") []),
    named "rest_pattern" "...rest" none []]

theorem function?_declared_bound_plainList :
    (declaration plainList).condense.functions = [⟨"f", ["a", "...rest"]⟩] ∧
      (declaration plainList).function? = (declarator plainList).function? := by
  have hbound : (declarator plainList).function? = some ⟨"f", ["a", "...rest"]⟩ := by decide +kernel
  obtain ⟨-, -, -, hagree⟩ := function?_declared_bound (d := declaration plainList)
    (v := declarator plainList) (Or.inl rfl) rfl rfl (Or.inl rfl) rfl rfl rfl
  refine ⟨by decide +kernel, hagree.2 ?_⟩
  intro f hf _
  rw [hbound] at hf
  obtain rfl := Option.some.inj hf
  decide

def receiverList : Node :=
  parameterList [parameter (named "this" "this" (some "pattern") []),
    parameter (named "identifier" "a" (some "pattern") [])]

theorem function?_receiverList :
    (declaration receiverList).condense.functions = [⟨"f", ["a"]⟩] ∧
      (declarator receiverList).condense.functions = [⟨"f", ["this", "a"]⟩] := by
  decide +kernel

end SourceDigest.Syntax.Node
