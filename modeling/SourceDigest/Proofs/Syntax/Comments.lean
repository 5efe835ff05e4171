import Mathlib.Data.List.Forall2
import SourceDigest.Proofs.Syntax.Specifier

namespace SourceDigest.Syntax.Node

structure IsComment (c : Node) : Prop where
  kind : c.kind = "comment"
  isNamed : c.isNamed = true
  field : c.field = none
  children : c.children = []

mutual

inductive Commented : Node → Node → Prop
  | node {kind text : String} {start stop start' stop' : Place} {isNamed : Bool}
    {field : Option String} {children children' : List Node}
    (below : CommentedAll children children') :
    Commented ⟨kind, text, start, stop, isNamed, field, children⟩
      ⟨kind, text, start', stop', isNamed, field, children'⟩

inductive CommentedAll : List Node → List Node → Prop
  | nil : CommentedAll [] []
  | keep {n n' : Node} {ns ns' : List Node} (head : Commented n n') (tail : CommentedAll ns ns') :
    CommentedAll (n :: ns) (n' :: ns')
  | comment {c : Node} {ns ns' : List Node} (isComment : c.IsComment)
    (tail : CommentedAll ns ns') : CommentedAll ns (c :: ns')

end

section Nodes

variable {n n' : Node}

theorem Commented.kind_eq (h : Commented n n') : n'.kind = n.kind := by
  cases h
  rfl

theorem Commented.text_eq (h : Commented n n') : n'.text = n.text := by
  cases h
  rfl

theorem Commented.isNamed_eq (h : Commented n n') : n'.isNamed = n.isNamed := by
  cases h
  rfl

theorem Commented.field_eq (h : Commented n n') : n'.field = n.field := by
  cases h
  rfl

theorem Commented.children (h : Commented n n') : CommentedAll n.children n'.children := by
  cases h with
  | node below => exact below

theorem Commented.plainText?_eq (h : Commented n n') : n'.plainText? = n.plainText? := by
  rw [plainText?, plainText?, h.text_eq]

theorem Commented.literal?_eq (h : Commented n n') : n'.literal? = n.literal? := by
  rw [literal?, literal?, h.kind_eq, h.plainText?_eq]

end Nodes

section Lists

variable {ns ns' : List Node} {p : Node → Bool}

theorem CommentedAll.append {ms ms' : List Node} (h : CommentedAll ns ns')
    (hms : CommentedAll ms ms') : CommentedAll (ns ++ ms) (ns' ++ ms') := by
  induction ns' generalizing ns with
  | nil =>
    cases h
    exact hms
  | cons c ns' ih =>
    cases h with
    | keep head tail => exact .keep head (ih tail)
    | comment isComment tail => exact .comment isComment (ih tail)

theorem CommentedAll.filter (hp : ∀ {n n'}, Commented n n' → p n' = p n) (h : CommentedAll ns ns') :
    CommentedAll (ns.filter p) (ns'.filter p) := by
  induction ns' generalizing ns with
  | nil =>
    cases h
    exact .nil
  | cons c ns' ih =>
    cases h with
    | @keep n _ _ _ head tail =>
      rw [List.filter_cons, List.filter_cons, hp head]
      split
      · exact .keep head (ih tail)
      · exact ih tail
    | comment isComment tail =>
      rw [List.filter_cons]
      split
      · exact .comment isComment (ih tail)
      · exact ih tail

theorem CommentedAll.forall₂_filter (hp : ∀ {n n'}, Commented n n' → p n' = p n)
    (hcomment : ∀ {c}, IsComment c → p c = false) (h : CommentedAll ns ns') :
    List.Forall₂ Commented (ns.filter p) (ns'.filter p) := by
  induction ns' generalizing ns with
  | nil =>
    cases h
    exact .nil
  | cons c ns' ih =>
    cases h with
    | @keep n _ _ _ head tail =>
      rw [List.filter_cons, List.filter_cons, hp head]
      split
      · exact .cons head (ih tail)
      · exact ih tail
    | comment isComment tail =>
      rw [List.filter_cons, hcomment isComment]
      exact ih tail

theorem CommentedAll.rel_find? (hp : ∀ {n n'}, Commented n n' → p n' = p n)
    (hcomment : ∀ {c}, IsComment c → p c = false) (h : CommentedAll ns ns') :
    Option.Rel Commented (ns.find? p) (ns'.find? p) := by
  have hkept := h.forall₂_filter hp hcomment
  rw [← List.head?_filter, ← List.head?_filter]
  generalize ns.filter p = kept, ns'.filter p = kept' at hkept
  cases hkept with
  | nil => exact .none
  | cons head _ => exact .some head

theorem filterMap_eq_of_forall₂ {β : Type} {f : Node → Option β}
    (hf : ∀ {n n'}, Commented n n' → f n' = f n) (h : List.Forall₂ Commented ns ns') :
    ns'.filterMap f = ns.filterMap f := by
  induction h with
  | nil => rfl
  | cons head _ ih => rw [List.filterMap_cons, List.filterMap_cons, hf head, ih]

theorem bind_eq_of_rel {β : Type} {f : Node → Option β} {o o' : Option Node}
    (hf : ∀ {n n'}, Commented n n' → f n' = f n) (h : Option.Rel Commented o o') :
    o'.bind f = o.bind f := by
  cases h with
  | none => rfl
  | some h => exact hf h

end Lists

section Fields

variable {n n' : Node}

theorem Commented.field_beq_eq (field : String) (h : Commented n n') :
    (n'.field == some field) = (n.field == some field) := by
  rw [h.field_eq]

theorem IsComment.field_beq_eq {c : Node} (field : String) (h : c.IsComment) :
    (c.field == some field) = false := by
  rw [h.field]
  rfl

theorem Commented.rel_child? (field : String) (h : Commented n n') :
    Option.Rel Commented (n.child? field) (n'.child? field) :=
  h.children.rel_find? (Commented.field_beq_eq field) (IsComment.field_beq_eq field)

theorem Commented.child?_cases (field : String) (h : Commented n n') :
    (n.child? field = none ∧ n'.child? field = none) ∨
      ∃ c c', n.child? field = some c ∧ n'.child? field = some c' ∧ Commented c c' := by
  have hchild := h.rel_child? field
  generalize n.child? field = o, n'.child? field = o' at hchild
  cases hchild with
  | none => exact .inl ⟨rfl, rfl⟩
  | some hc => exact .inr ⟨_, _, rfl, rfl, hc⟩

theorem Commented.forall₂_childrenUnder (field : String) (h : Commented n n') :
    List.Forall₂ Commented (n.childrenUnder field) (n'.childrenUnder field) :=
  h.children.forall₂_filter (Commented.field_beq_eq field) (IsComment.field_beq_eq field)

theorem Commented.namedChildren (h : Commented n n') :
    CommentedAll n.namedChildren n'.namedChildren :=
  h.children.filter fun hchild => hchild.isNamed_eq

theorem rel_searchQueue (field : String) {a b : Nat} {queue queue' : List Node}
    (h : CommentedAll queue queue') (ha : sizeAll queue ≤ a) (hb : sizeAll queue' ≤ b) :
    Option.Rel Commented (searchQueue field a queue) (searchQueue field b queue') := by
  induction b generalizing a queue queue' with
  | zero =>
    cases h with
    | nil => cases a <;> exact .none
    | keep _ _ =>
      rw [sizeAll, size_eq] at hb
      omega
    | comment _ _ =>
      rw [sizeAll, size_eq] at hb
      omega
  | succ b ih =>
    cases h with
    | nil => cases a <;> exact .none
    | @keep n n' ns ns' head tail =>
      rw [sizeAll, size_eq] at ha hb
      obtain ⟨a, rfl⟩ : ∃ a', a = a' + 1 := ⟨a - 1, by omega⟩
      rw [searchQueue, searchQueue, head.field_eq]
      split
      · exact .some head
      · exact ih (tail.append head.children) (by rw [sizeAll_append]; omega)
          (by rw [sizeAll_append]; omega)
    | @comment c _ ns' isComment tail =>
      rw [sizeAll, size_eq] at hb
      have hfield : ¬ c.field = some field := by simp [isComment.field]
      rw [searchQueue, if_neg hfield, isComment.children, List.append_nil]
      exact ih tail ha (by omega)

theorem Commented.rel_findField? (field : String) (h : Commented n n') :
    Option.Rel Commented (n.findField? field) (n'.findField? field) :=
  rel_searchQueue field h.children (by rw [size_eq]; omega) (by rw [size_eq]; omega)

theorem Commented.plainText?_child?_eq (field : String) (h : Commented n n') :
    (n'.child? field).bind plainText? = (n.child? field).bind plainText? :=
  bind_eq_of_rel Commented.plainText?_eq (h.rel_child? field)

theorem Commented.plainText?_findField?_eq (field : String) (h : Commented n n') :
    (n'.findField? field).bind plainText? = (n.findField? field).bind plainText? :=
  bind_eq_of_rel Commented.plainText?_eq (h.rel_findField? field)

theorem Commented.declaredName?_eq (field : String) (h : Commented n n') :
    n'.declaredName? field = n.declaredName? field := by
  have hbind (m : Node) : m.declaredName? field = (m.child? field).bind fun name =>
      if nameKinds.contains name.kind then name.plainText? else none := by
    rw [declaredName?]
    cases m.child? field <;> rfl
  rw [hbind, hbind]
  apply bind_eq_of_rel _ (h.rel_child? field)
  intro name name' hname
  rw [hname.kind_eq, hname.plainText?_eq]

end Fields

section Parameters

theorem CommentedAll.any_eq {p : Node → Bool} (hp : ∀ {n n'}, Commented n n' → p n' = p n)
    (hcomment : ∀ {c}, IsComment c → p c = false) {ns ns' : List Node} (h : CommentedAll ns ns') :
    ns'.any p = ns.any p := by
  induction ns' generalizing ns with
  | nil =>
    cases h
    rfl
  | cons c ns' ih =>
    cases h with
    | keep head tail => rw [List.any_cons, List.any_cons, hp head, ih tail]
    | comment isComment tail => rw [List.any_cons, hcomment isComment, ih tail, Bool.false_or]

theorem IsComment.skipped {c : Node} (h : c.IsComment) : parameterSkipped.contains c.kind = true := by
  rw [h.kind]
  rfl

theorem IsComment.parameterName?_eq {c : Node} (h : c.IsComment) : c.parameterName? = none := by
  obtain ⟨kind, text, start, stop, isNamed, field, children⟩ := c
  rw [parameterName?, if_pos h.skipped]

mutual

theorem Commented.parameterName?_eq : ∀ {n n' : Node}, Commented n n' →
    n'.parameterName? = n.parameterName?
  | ⟨kind, text, _, _, _, _, children⟩, ⟨_, _, _, _, _, _, children'⟩, .node below => by
    have hany (f : String) : (children'.any fun c => c.field == some f)
        = children.any fun c => c.field == some f :=
      below.any_eq (Commented.field_beq_eq f) (IsComment.field_beq_eq f)
    rw [parameterName?, parameterName?]
    simp only [hany, below.firstName?_eq, fun f => below.nameUnder?_eq f]

theorem CommentedAll.nameUnder?_eq (field : String) : ∀ {ns ns' : List Node}, CommentedAll ns ns' →
    nameUnder? field ns' = nameUnder? field ns
  | _, [], .nil => rfl
  | _, _ :: _, .keep head tail => by
    rw [nameUnder?, nameUnder?, head.field_eq, head.parameterName?_eq, tail.nameUnder?_eq field]
  | _, _ :: _, .comment isComment tail => by
    rw [nameUnder?, isComment.field_beq_eq, tail.nameUnder?_eq field]
    rfl

theorem CommentedAll.firstName?_eq : ∀ {ns ns' : List Node}, CommentedAll ns ns' →
    firstName? ns' = firstName? ns
  | _, [], .nil => rfl
  | _, _ :: _, .keep head tail => by
    rw [firstName?, firstName?, head.field_eq, head.isNamed_eq, head.parameterName?_eq,
      tail.firstName?_eq]
  | _, _ :: _, .comment isComment tail => by
    rw [firstName?, isComment.parameterName?_eq, tail.firstName?_eq]
    simp

end

theorem Commented.parameterNames_eq (receivers : List String) {list list' : Node}
    (h : Commented list list') : list'.parameterNames receivers = list.parameterNames receivers := by
  have hkept : List.Forall₂ Commented
      (list.namedChildren.filter fun c => !parameterSkipped.contains c.kind)
      (list'.namedChildren.filter fun c => !parameterSkipped.contains c.kind) :=
    h.namedChildren.forall₂_filter (fun hchild => by rw [hchild.kind_eq])
      (fun hcomment => by rw [hcomment.skipped]; rfl)
  have hnames := filterMap_eq_of_forall₂ Commented.parameterName?_eq hkept
  simp only [parameterNames, hnames]

end Parameters

section Constructs

open Contribution

variable {n n' : Node}

theorem Commented.outline_classContribution (nameField : String) (h : Commented n n') :
    (n'.classContribution nameField).outline = (n.classContribution nameField).outline := by
  rw [classContribution, classContribution, h.declaredName?_eq]
  cases n.declaredName? nameField <;> rfl

theorem Commented.rel_parameterNode? (rule : ParameterRule) (h : Commented n n') :
    Option.Rel (Option.Rel Commented) (n.parameterNode? rule) (n'.parameterNode? rule) := by
  cases rule with
  | field name => exact .some (h.rel_child? name)
  | value name kinds =>
    rw [parameterNode?, parameterNode?]
    obtain ⟨hn, hn'⟩ | ⟨v, v', hn, hn', hv⟩ := h.child?_cases name
    · rw [hn, hn']
      exact .none
    · simp only [hn, hn', hv.kind_eq]
      split
      · apply Option.Rel.some
        obtain ⟨hmany, hmany'⟩ | ⟨_, _, hmany, hmany', hlist⟩ := hv.child?_cases "parameters"
        · rw [hmany, hmany']
          exact hv.rel_child? "parameter"
        · rw [hmany, hmany']
          exact .some hlist
      · exact .none

theorem Commented.outline_functionContribution (rule : FunctionRule) (h : Commented n n') :
    (n'.functionContribution rule).outline = (n.functionContribution rule).outline := by
  have hnode := h.rel_parameterNode? rule.parameters
  rw [functionContribution, functionContribution, h.declaredName?_eq]
  generalize n.parameterNode? rule.parameters = node,
    n'.parameterNode? rule.parameters = node' at hnode
  cases hnode with
  | none => rfl
  | some hholder =>
    cases n.declaredName? rule.nameField with
    | none => rfl
    | some name =>
      cases hholder with
      | none => rfl
      | @some list list' hlist =>
        have hkind : list'.isParameterList = list.isParameterList := by
          rw [isParameterList, isParameterList, hlist.kind_eq]
        simp only [hkind, hlist.parameterNames_eq, hlist.parameterName?_eq]

theorem Commented.sources_eq (each : String) (h : Commented n n') :
    ((n'.childrenUnder each).filterMap fun c => ((c.child? "name").getD c).plainText?)
      = (n.childrenUnder each).filterMap fun c => ((c.child? "name").getD c).plainText? := by
  apply filterMap_eq_of_forall₂ _ (h.forall₂_childrenUnder each)
  intro c c' hc
  obtain ⟨hn, hn'⟩ | ⟨_, _, hn, hn', hname⟩ := hc.child?_cases "name"
  · rw [hn, hn']
    exact hc.plainText?_eq
  · rw [hn, hn']
    exact hname.plainText?_eq

theorem Commented.outline_importContribution {rule : ImportRule}
    (hrule : ∀ callees, rule ≠ .call callees) (h : Commented n n') :
    (n'.importContribution rule).outline = (n.importContribution rule).outline := by
  cases rule with
  | field name =>
    rw [importContribution, importContribution, h.plainText?_findField?_eq]
    cases (n.findField? name).bind plainText? <;> rfl
  | optionalField name =>
    rw [importContribution, importContribution, h.plainText?_child?_eq]
  | fieldOrEach name each =>
    rw [importContribution, importContribution, h.plainText?_findField?_eq, h.sources_eq]
    cases (n.findField? name).bind plainText? with
    | some source => rfl
    | none =>
      cases (n.childrenUnder each).filterMap fun c => ((c.child? "name").getD c).plainText? <;> rfl
  | call callees => exact absurd rfl (hrule callees)

end Constructs

section Calls

def spokenArgument? (n : Node) : Option Node :=
  (n.child? "arguments").bind fun list => list.namedChildren.find? fun c => c.kind != "comment"

def opensWithComment (n : Node) : Bool := n.firstArgument?.any fun a => a.kind == "comment"

def importCallees? (n : Node) : Option (List String) :=
  match Construct.ofKind? n.kind with
  | some (.imports (.call callees)) => some callees
  | _ => none

def hidesSource (n : Node) : Bool :=
  n.importCallees?.any fun callees => n.needsSource (.call callees) && n.opensWithComment
    && (n.spokenArgument?.bind literal?).isSome

theorem Commented.importCallees?_eq {n n' : Node} (h : Commented n n') :
    n'.importCallees? = n.importCallees? := by
  rw [importCallees?, importCallees?, h.kind_eq]

theorem firstArgument?_bind_literal? (n : Node) :
    n.firstArgument?.bind literal?
      = if n.opensWithComment then none else n.spokenArgument?.bind literal? := by
  rw [opensWithComment, firstArgument?, spokenArgument?]
  cases n.child? "arguments" with
  | none => rfl
  | some list =>
    rw [Option.bind_some, Option.bind_some]
    cases list.namedChildren with
    | nil => rfl
    | cons a as =>
      rw [List.head?_cons, Option.any_some, Option.bind_some]
      split
      case isTrue h =>
        rw [literal?, eq_of_beq h]
        rfl
      case isFalse h =>
        have hspoken : (a.kind != "comment") = true := by simpa using h
        simp only [List.find?_cons, hspoken, Option.bind_some]

variable {n n' : Node}

theorem Commented.needsSource_call_eq (callees : List String) (h : Commented n n') :
    n'.needsSource (.call callees) = n.needsSource (.call callees) := by
  rw [needsSource, needsSource]
  obtain ⟨hn, hn'⟩ | ⟨_, _, hn, hn', hcallee⟩ := h.child?_cases "function"
  · rw [hn, hn']
  · rw [hn, hn', Option.any_some, Option.any_some, hcallee.text_eq]

theorem Commented.spokenSource_eq (h : Commented n n') :
    n'.spokenArgument?.bind literal? = n.spokenArgument?.bind literal? := by
  apply bind_eq_of_rel Commented.literal?_eq
  rw [spokenArgument?, spokenArgument?]
  obtain ⟨hn, hn'⟩ | ⟨_, _, hn, hn', hlist⟩ := h.child?_cases "arguments"
  · rw [hn, hn']
    exact .none
  · rw [hn, hn']
    exact hlist.namedChildren.rel_find? (fun hc => by rw [hc.kind_eq])
      (fun hcomment => by rw [hcomment.kind]; rfl)

theorem Commented.opensWithComment_of (h : Commented n n') (hopens : n.opensWithComment = true) :
    n'.opensWithComment = true := by
  rw [opensWithComment, firstArgument?] at hopens ⊢
  obtain ⟨hn, -⟩ | ⟨list, list', hn, hn', hlist⟩ := h.child?_cases "arguments"
  · rw [hn] at hopens
    cases hopens
  · have hnamed := hlist.namedChildren
    rw [hn, Option.bind_some] at hopens
    rw [hn', Option.bind_some]
    generalize list.namedChildren = as, list'.namedChildren = as' at hnamed hopens
    cases hnamed with
    | nil => exact hopens
    | keep head _ =>
      rw [List.head?_cons, Option.any_some] at hopens ⊢
      rw [head.kind_eq]
      exact hopens
    | comment isComment _ =>
      rw [List.head?_cons, Option.any_some, isComment.kind]
      rfl

end Calls

section Outlines

open Contribution

structure Fades (o o' : Outline) (hidden hidden' : Nat) : Prop where
  functions : o'.functions = o.functions
  classes : o'.classes = o.classes
  imports : o'.imports.Sublist o.imports
  length : o'.imports.length + hidden' = o.imports.length + hidden

theorem Fades.of_eq {o o' : Outline} (h : o' = o) (hidden : Nat) : Fades o o' hidden hidden := by
  subst h
  exact ⟨rfl, rfl, List.Sublist.refl _, rfl⟩

theorem Fades.append {o o' q q' : Outline} {i i' j j' : Nat} (ho : Fades o o' i i')
    (hq : Fades q q' j j') : Fades (o ++ q) (o' ++ q') (i + j) (i' + j') where
  functions := congrArg₂ List.append ho.functions hq.functions
  classes := congrArg₂ List.append ho.classes hq.classes
  imports := ho.imports.append hq.imports
  length := by
    have hlength := ho.length
    have hlength' := hq.length
    show (o'.imports ++ q'.imports).length + _ = (o.imports ++ q.imports).length + _
    rw [List.length_append, List.length_append]
    omega

theorem Fades.eq_iff {o o' : Outline} {hidden hidden' : Nat} (h : Fades o o' hidden hidden') :
    o' = o ↔ hidden' = hidden := by
  have hlength := h.length
  constructor
  · rintro rfl
    omega
  · rintro rfl
    have himports := h.imports.eq_of_length (by omega)
    obtain ⟨_, _, _⟩ := o
    obtain ⟨_, _, _⟩ := o'
    obtain rfl := h.functions
    obtain rfl := h.classes
    obtain rfl := himports
    rfl

variable {n n' : Node}

theorem Commented.fades_callContribution {callees : List String}
    (hcallees : n.importCallees? = some callees) (h : Commented n n') :
    Fades (n.callContribution callees).outline (n'.callContribution callees).outline
      n.hidesSource.toNat n'.hidesSource.toNat := by
  have hopens := h.opensWithComment_of
  rw [outline_callContribution, outline_callContribution, callSources, callSources, hidesSource,
    hidesSource, h.importCallees?_eq, hcallees, Option.any_some, Option.any_some, h.needsSource_call_eq,
    h.spokenSource_eq, firstArgument?_bind_literal?, firstArgument?_bind_literal?, h.spokenSource_eq]
  cases n.needsSource (.call callees) with
  | false => exact .of_eq rfl 0
  | true =>
    cases hn : n.opensWithComment with
    | true =>
      rw [hopens hn]
      exact .of_eq rfl _
    | false =>
      cases n'.opensWithComment with
      | false => exact .of_eq rfl _
      | true =>
        cases n.spokenArgument?.bind literal? with
        | none => exact .of_eq rfl 0
        | some source => exact ⟨rfl, rfl, List.nil_sublist _, rfl⟩

theorem hidesSource_of_none (h : n.importCallees? = none) : n.hidesSource = false := by
  rw [hidesSource, h, Option.any_none]

theorem Commented.outline_contribution (hcallees : n.importCallees? = none) (h : Commented n n') :
    n'.contribution.outline = n.contribution.outline := by
  rw [contribution, contribution, h.kind_eq]
  rw [importCallees?] at hcallees
  cases hconstruct : Construct.ofKind? n.kind with
  | none => rfl
  | some construct =>
    rw [hconstruct] at hcallees
    cases construct with
    | imports rule =>
      apply h.outline_importContribution
      rintro callees rfl
      cases hcallees
    | function rule => exact h.outline_functionContribution rule
    | «class» nameField => exact h.outline_classContribution nameField

theorem Commented.fades_contribution (h : Commented n n') :
    Fades n.contribution.outline n'.contribution.outline n.hidesSource.toNat
      n'.hidesSource.toNat := by
  cases hcallees : n.importCallees? with
  | none =>
    have hcallees' := h.importCallees?_eq.trans hcallees
    rw [hidesSource_of_none hcallees, hidesSource_of_none hcallees']
    exact .of_eq (h.outline_contribution hcallees) 0
  | some callees =>
    have hkind : Construct.ofKind? n.kind = some (.imports (.call callees)) := by
      rw [importCallees?] at hcallees
      split at hcallees
      · rename_i h
        rw [h, Option.some.inj hcallees]
      · cases hcallees
    rw [contribution_of_imports hkind, contribution_of_imports (by rw [h.kind_eq, hkind])]
    exact h.fades_callContribution hcallees

def hiddenSources (n : Node) : Nat := n.preorder.countP hidesSource

theorem IsComment.preorder_eq {c : Node} (h : c.IsComment) : c.preorder = [c] := by
  rw [preorder_cons, h.children, List.flatMap_nil]

theorem IsComment.contributions_eq {c : Node} (h : c.IsComment) : c.contributions = .empty := by
  rw [contributions_cons, h.children, contribution, h.kind]
  rfl

theorem IsComment.hidesSource_eq {c : Node} (h : c.IsComment) : c.hidesSource = false := by
  apply hidesSource_of_none
  rw [importCallees?, h.kind]
  rfl

theorem hiddenSources_eq (n : Node) :
    n.hiddenSources = n.hidesSource.toNat + (preorderAll n.children).countP hidesSource := by
  rw [hiddenSources, Node.preorder_eq, List.countP_cons, Nat.add_comm]
  cases n.hidesSource <;> rfl

mutual

theorem Commented.fades_condense : ∀ {n n' : Node}, Commented n n' →
    Fades n.condense n'.condense n.hiddenSources n'.hiddenSources
  | ⟨_, _, _, _, _, _, _⟩, ⟨_, _, _, _, _, _, _⟩, .node below => by
    rw [condense, condense, contributions_cons, contributions_cons, hiddenSources_eq,
      hiddenSources_eq]
    exact (Commented.node below).fades_contribution.append below.fades_condense

theorem CommentedAll.fades_condense : ∀ {ns ns' : List Node}, CommentedAll ns ns' →
    Fades (concat (ns.map contributions)).outline (concat (ns'.map contributions)).outline
      ((preorderAll ns).countP hidesSource) ((preorderAll ns').countP hidesSource)
  | _, [], .nil => .of_eq rfl 0
  | _, _ :: _, .keep head tail => by
    rw [List.map_cons, List.map_cons, concat, concat, preorderAll, preorderAll, List.countP_append,
      List.countP_append]
    exact head.fades_condense.append tail.fades_condense
  | _, _ :: _, .comment isComment tail => by
    rw [List.map_cons, concat, isComment.contributions_eq, empty_append, preorderAll,
      isComment.preorder_eq, List.countP_append, List.countP_singleton, isComment.hidesSource_eq]
    simpa using tail.fades_condense

end

/-- Comments change nothing in an outline but the sources of calls that come to stand behind one. As
many imports are missing as there are more such calls, and the outline stays the same exactly when
there are none. -/
theorem condense_of_commented (h : Commented n n') :
    n'.condense.functions = n.condense.functions ∧
      n'.condense.classes = n.condense.classes ∧
      n'.condense.imports.Sublist n.condense.imports ∧
      n'.condense.imports.length + n'.hiddenSources
        = n.condense.imports.length + n.hiddenSources ∧
      (n'.condense = n.condense ↔ n'.hiddenSources = n.hiddenSources) ∧
      ((∀ d ∈ n'.preorder, d.hidesSource = false) → n'.condense = n.condense) := by
  have hfades := h.fades_condense
  refine ⟨hfades.functions, hfades.classes, hfades.imports, hfades.length, hfades.eq_iff, ?_⟩
  intro hnone
  have hzero : n'.hiddenSources = 0 := by
    rw [hiddenSources, List.countP_eq_zero]
    intro d hd
    simp [hnone d hd]
  have hlength := hfades.length
  have hle := hfades.imports.length_le
  exact hfades.eq_iff.2 (by omega)

end Outlines

def comment : Node := named "comment" "/* c */" none []

theorem isComment_comment : comment.IsComment := ⟨rfl, rfl, rfl, rfl⟩

def program (before inList behind : List Node) : Node :=
  named "program" "" none (before ++ [
    named "function_declaration" "" none [
      named "identifier" "f" (some "name") [],
      named "formal_parameters" "" (some "parameters") (inList ++ [named "identifier" "a" none []])],
    requireOf (fsLiteral :: behind)])

theorem condense_of_commented_program :
    Commented (program [] [] []) (program [comment] [comment] [comment]) ∧
      (program [comment] [comment] [comment]).condense = (program [] [] []).condense ∧
      (program [] [] []).condense = ⟨[⟨"fs"⟩], [⟨"f", ["a"]⟩], []⟩ := by
  have hlist : CommentedAll [named "identifier" "a" none []]
      [comment, named "identifier" "a" none []] :=
    .comment isComment_comment (.keep (.node .nil) .nil)
  have harguments : CommentedAll [fsLiteral] [fsLiteral, comment] :=
    .keep (.node .nil) (.comment isComment_comment .nil)
  have hprogram : Commented (program [] [] []) (program [comment] [comment] [comment]) :=
    .node (.comment isComment_comment
      (.keep (.node (.keep (.node .nil) (.keep (.node hlist) .nil)))
        (.keep (.node (.keep (.node .nil) (.keep (.node harguments) .nil))) .nil)))
  obtain ⟨-, -, -, -, -, hsame⟩ := condense_of_commented hprogram
  exact ⟨hprogram, hsame (by decide +kernel), by decide +kernel⟩

theorem condense_commentedCall :
    Commented (requireOf [fsLiteral]) (requireOf [comment, fsLiteral]) ∧
      (requireOf [fsLiteral]).condense.imports = [⟨"fs"⟩] ∧
      (requireOf [comment, fsLiteral]).condense.imports = [] := by
  refine ⟨?_, by decide +kernel, by decide +kernel⟩
  exact .node (.keep (.node .nil)
    (.keep (.node (.comment isComment_comment (.keep (.node .nil) .nil))) .nil))

end SourceDigest.Syntax.Node
