import Mathlib.Data.List.Find
import Mathlib.Data.List.Forall2
import SourceDigest.Proofs.Syntax.Receiver

namespace SourceDigest.Syntax.Node

structure Spells (d : Node) (name : String) : Prop where
  nonempty : name ≠ ""
  text : d.kind ∈ parameterIdentifiers ∧ name = Text.trim d.text ∨
    d.kind ∈ parameterPatterns ∧ name = String.ofList (Text.collapseBlanks d.text.toList)

inductive Leads : Node → Node → Prop
  | here {n : Node} (kept : n.kind ∉ parameterSkipped) : Leads n n
  | step {n c d : Node} (kept : n.kind ∉ parameterSkipped) (child : c ∈ n.children)
    (apart : ∀ f ∈ parameterOtherFields, c.field ≠ some f) (rest : Leads c d) : Leads n d

def Binds (n : Node) (name : String) : Prop := ∃ d, n.Leads d ∧ d.Spells name

structure IsWrapper (n : Node) : Prop where
  kept : n.kind ∉ parameterSkipped
  notIdentifier : n.kind ∉ parameterIdentifiers
  notPattern : n.kind ∉ parameterPatterns

def nameChild? (n : Node) : Option Node := parameterNameFields.findSome? n.child?

def innerChildren (n : Node) : List Node :=
  n.namedChildren.filter fun c => !c.field.any parameterOtherFields.contains

inductive Unwraps : Node → Node → Prop
  | here {n : Node} (kept : n.kind ∉ parameterSkipped) : Unwraps n n
  | named {n c d : Node} (wrapper : n.IsWrapper) (child : n.nameChild? = some c)
    (rest : Unwraps c d) : Unwraps n d
  | inner {n c d : Node} (wrapper : n.IsWrapper) (unnamed : n.nameChild? = none)
    (child : c ∈ n.innerChildren) (rest : Unwraps c d) : Unwraps n d

section Equations

variable {n : Node}

theorem nameUnder?_eq (field : String) (ns : List Node) :
    nameUnder? field ns = (ns.find? fun c => c.field == some field).bind parameterName? := by
  induction ns with
  | nil => rfl
  | cons c ns ih =>
    rw [nameUnder?, List.find?_cons]
    cases c.field == some field with
    | true => rfl
    | false => exact ih

theorem firstName?_eq (ns : List Node) :
    firstName? ns = ((ns.filter (·.isNamed)).filter fun c =>
      !c.field.any parameterOtherFields.contains).findSome? parameterName? := by
  induction ns with
  | nil => rfl
  | cons c ns ih =>
    rw [firstName?, List.filter_cons]
    cases c.isNamed with
    | false => exact ih
    | true =>
      rw [Bool.true_and, if_pos rfl, List.filter_cons]
      split
      · rw [List.findSome?_cons, ih]
        cases c.parameterName? <;> rfl
      · exact ih

theorem parameterName?_of_skipped (h : n.kind ∈ parameterSkipped) : n.parameterName? = none := by
  obtain ⟨kind, text, start, stop, isNamed, field, children⟩ := n
  rw [parameterName?, if_pos (List.contains_iff_mem.2 h)]

theorem not_skipped_of_identifier : ∀ k ∈ parameterIdentifiers, k ∉ parameterSkipped := by
  decide

theorem not_skipped_of_pattern : ∀ k ∈ parameterPatterns, k ∉ parameterSkipped := by
  decide

theorem not_pattern_of_identifier : ∀ k ∈ parameterIdentifiers, k ∉ parameterPatterns := by
  decide

theorem ite_empty_eq_some_iff {t name : String} :
    (if t = "" then none else some t) = some name ↔ name ≠ "" ∧ name = t := by
  split
  case isTrue h => simp [h]
  case isFalse h =>
    rw [Option.some_inj, eq_comm]
    exact (and_iff_right_of_imp fun hname => hname ▸ h).symm

theorem parameterName?_of_identifier {name : String} (h : n.kind ∈ parameterIdentifiers) :
    n.parameterName? = some name ↔ n.Spells name := by
  have hskipped := not_skipped_of_identifier _ h
  have hpattern := not_pattern_of_identifier _ h
  obtain ⟨kind, text, start, stop, isNamed, field, children⟩ := n
  rw [parameterName?, if_neg (mt List.contains_iff_mem.1 hskipped),
    if_pos (List.contains_iff_mem.2 h)]
  refine ite_empty_eq_some_iff.trans ⟨fun ⟨hne, htext⟩ => ⟨hne, Or.inl ⟨h, htext⟩⟩, ?_⟩
  rintro ⟨hne, ⟨-, htext⟩ | ⟨hkind, -⟩⟩
  · exact ⟨hne, htext⟩
  · exact absurd hkind hpattern

theorem parameterName?_of_pattern {name : String} (h : n.kind ∈ parameterPatterns) :
    n.parameterName? = some name ↔ n.Spells name := by
  have hskipped := not_skipped_of_pattern _ h
  have hidentifier : n.kind ∉ parameterIdentifiers := fun hk => not_pattern_of_identifier _ hk h
  obtain ⟨kind, text, start, stop, isNamed, field, children⟩ := n
  rw [parameterName?, if_neg (mt List.contains_iff_mem.1 hskipped),
    if_neg (mt List.contains_iff_mem.1 hidentifier), if_pos (List.contains_iff_mem.2 h)]
  refine ite_empty_eq_some_iff.trans ⟨fun ⟨hne, htext⟩ => ⟨hne, Or.inr ⟨h, htext⟩⟩, ?_⟩
  rintro ⟨hne, ⟨hkind, -⟩ | ⟨-, htext⟩⟩
  · exact absurd hkind hidentifier
  · exact ⟨hne, htext⟩

theorem any_eq_isSome_child? (n : Node) (field : String) :
    (n.children.any fun c => c.field == some field) = (n.child? field).isSome := by
  rw [child?, Bool.eq_iff_iff, List.any_eq_true, List.find?_isSome]

theorem findSome?_child?_eq_some {fields : List String} {c : Node}
    (h : fields.findSome? n.child? = some c) :
    ∃ f, fields.find? (fun f => n.children.any fun c => c.field == some f) = some f ∧
      n.child? f = some c := by
  obtain ⟨passed, f, rest, rfl, hf, hpassed⟩ := List.findSome?_eq_some_iff.1 h
  refine ⟨f, ?_, hf⟩
  rw [List.find?_eq_some_iff_append]
  refine ⟨by rw [any_eq_isSome_child?, hf]; rfl, passed, rest, rfl, ?_⟩
  intro g hg
  rw [any_eq_isSome_child?, hpassed g hg]
  rfl

theorem findSome?_child?_eq_none {fields : List String} (h : fields.findSome? n.child? = none) :
    fields.find? (fun f => n.children.any fun c => c.field == some f) = none := by
  rw [List.find?_eq_none]
  intro f hf
  rw [any_eq_isSome_child?, List.findSome?_eq_none_iff.1 h f hf]
  exact Bool.false_ne_true

theorem IsWrapper.parameterName?_eq (h : n.IsWrapper) :
    n.parameterName? =
      (parameterNameFields.find? fun f => n.children.any fun c => c.field == some f).elim
        (firstName? n.children) (nameUnder? · n.children) := by
  obtain ⟨hskipped, hidentifier, hpattern⟩ := h
  obtain ⟨kind, text, start, stop, isNamed, field, children⟩ := n
  simp only [parameterName?, if_neg (mt List.contains_iff_mem.1 hskipped),
    if_neg (mt List.contains_iff_mem.1 hidentifier), if_neg (mt List.contains_iff_mem.1 hpattern)]
  cases parameterNameFields.find? fun f => children.any fun c => c.field == some f with
  | none => rfl
  | some f => rfl

theorem IsWrapper.parameterName?_of_named (h : n.IsWrapper) {c : Node}
    (hc : n.nameChild? = some c) : n.parameterName? = c.parameterName? := by
  obtain ⟨f, hfirst, hf⟩ := findSome?_child?_eq_some hc
  rw [child?] at hf
  rw [h.parameterName?_eq, hfirst, Option.elim_some, nameUnder?_eq, hf, Option.bind_some]

theorem IsWrapper.parameterName?_of_unnamed (h : n.IsWrapper) (hnone : n.nameChild? = none) :
    n.parameterName? = n.innerChildren.findSome? parameterName? := by
  rw [h.parameterName?_eq, findSome?_child?_eq_none hnone, Option.elim_none]
  exact firstName?_eq n.children

end Equations

section Ways

variable {n d : Node} {name : String}

theorem kind_cases (n : Node) :
    n.kind ∈ parameterSkipped ∨ n.kind ∈ parameterIdentifiers ∨ n.kind ∈ parameterPatterns ∨
      n.IsWrapper := by
  by_cases hskipped : n.kind ∈ parameterSkipped
  · exact Or.inl hskipped
  by_cases hidentifier : n.kind ∈ parameterIdentifiers
  · exact Or.inr (Or.inl hidentifier)
  by_cases hpattern : n.kind ∈ parameterPatterns
  · exact Or.inr (Or.inr (Or.inl hpattern))
  · exact Or.inr (Or.inr (Or.inr ⟨hskipped, hidentifier, hpattern⟩))

theorem nameFields_apart : ∀ f ∈ parameterNameFields, f ∉ parameterOtherFields := by
  decide

theorem nameChild?_apart {c : Node} (h : n.nameChild? = some c) :
    c ∈ n.children ∧ ∀ f ∈ parameterOtherFields, c.field ≠ some f := by
  obtain ⟨f, hf, hc⟩ := List.exists_of_findSome?_eq_some h
  rw [child?] at hc
  have hheld := List.find?_some hc
  have hfield : c.field = some f := eq_of_beq hheld
  refine ⟨List.mem_of_find?_eq_some hc, ?_⟩
  rintro g hg hother
  obtain rfl : f = g := Option.some.inj (hfield.symm.trans hother)
  exact nameFields_apart f hf hg

theorem mem_innerChildren_apart {c : Node} (h : c ∈ n.innerChildren) :
    c ∈ n.children ∧ ∀ f ∈ parameterOtherFields, c.field ≠ some f := by
  obtain ⟨hnamed, hother⟩ := List.mem_filter.1 h
  refine ⟨(List.mem_filter.1 hnamed).1, ?_⟩
  intro f hf hfield
  rw [hfield, Option.any_some, List.contains_iff_mem.2 hf] at hother
  cases hother

theorem Unwraps.leads (h : n.Unwraps d) : n.Leads d := by
  induction h with
  | here kept => exact .here kept
  | named wrapper child _ ih =>
    obtain ⟨hmem, hapart⟩ := nameChild?_apart child
    exact .step wrapper.kept hmem hapart ih
  | inner wrapper _ child _ ih =>
    obtain ⟨hmem, hapart⟩ := mem_innerChildren_apart child
    exact .step wrapper.kept hmem hapart ih

theorem exists_unwraps (n : Node) :
    n.parameterName? = some name → ∃ d, n.Unwraps d ∧ d.Spells name := by
  induction n using forall_of_children with
  | h n ih =>
    intro hname
    rcases kind_cases n with hskipped | hidentifier | hpattern | hwrapper
    · rw [parameterName?_of_skipped hskipped] at hname
      cases hname
    · exact ⟨n, .here (not_skipped_of_identifier _ hidentifier),
        (parameterName?_of_identifier hidentifier).1 hname⟩
    · exact ⟨n, .here (not_skipped_of_pattern _ hpattern),
        (parameterName?_of_pattern hpattern).1 hname⟩
    · cases hchild : n.nameChild? with
      | some c =>
        rw [hwrapper.parameterName?_of_named hchild] at hname
        obtain ⟨d, hd, hspells⟩ := ih c (nameChild?_apart hchild).1 hname
        exact ⟨d, .named hwrapper hchild hd, hspells⟩
      | none =>
        rw [hwrapper.parameterName?_of_unnamed hchild] at hname
        obtain ⟨c, hc, hname⟩ := List.exists_of_findSome?_eq_some hname
        obtain ⟨d, hd, hspells⟩ := ih c (mem_innerChildren_apart hc).1 hname
        exact ⟨d, .inner hwrapper hchild hc hd, hspells⟩

theorem Spells.parameterName?_eq (h : n.Spells name) : n.parameterName? = some name := by
  rcases h.text with ⟨hkind, -⟩ | ⟨hkind, -⟩
  · exact (parameterName?_of_identifier hkind).2 h
  · exact (parameterName?_of_pattern hkind).2 h

theorem Unwraps.parameterName?_ne_none (h : n.Unwraps d) (hspells : d.Spells name) :
    n.parameterName? ≠ none := by
  induction h with
  | here _ =>
    rw [hspells.parameterName?_eq]
    exact Option.some_ne_none name
  | named wrapper child _ ih =>
    rw [wrapper.parameterName?_of_named child]
    exact ih hspells
  | inner wrapper unnamed child _ ih =>
    rw [wrapper.parameterName?_of_unnamed unnamed]
    exact fun hnone => ih hspells (List.findSome?_eq_none_iff.1 hnone _ child)

theorem binds_of_parameterName? (h : n.parameterName? = some name) : n.Binds name := by
  obtain ⟨d, hd, hspells⟩ := exists_unwraps n h
  exact ⟨d, hd.leads, hspells⟩

theorem parameterName?_eq_none_iff (n : Node) :
    n.parameterName? = none ↔ ∀ d name, n.Unwraps d → ¬ d.Spells name := by
  constructor
  · intro hnone d name hd hspells
    exact hd.parameterName?_ne_none hspells hnone
  · intro h
    rw [Option.eq_none_iff_forall_ne_some]
    intro name hname
    obtain ⟨d, hd, hspells⟩ := exists_unwraps n hname
    exact h d name hd hspells

end Ways

section Bare

mutual

def bare : Node → Node
  | ⟨kind, text, start, stop, isNamed, field, children⟩ =>
    if parameterSkipped.contains kind then ⟨kind, "", start, stop, isNamed, field, []⟩
    else ⟨kind, text, start, stop, isNamed, field, bareAll children⟩

def bareAll : List Node → List Node
  | [] => []
  | c :: cs =>
    if c.field.any parameterOtherFields.contains then bareAll cs else bare c :: bareAll cs

end

theorem field_bare (n : Node) : n.bare.field = n.field := by
  cases n
  rw [bare]
  split <;> rfl

theorem isNamed_bare (n : Node) : n.bare.isNamed = n.isNamed := by
  cases n
  rw [bare]
  split <;> rfl

theorem field_beq_of_other {c : Node} {f : String} (hf : f ∉ parameterOtherFields)
    (hother : c.field.any parameterOtherFields.contains = true) : (c.field == some f) = false := by
  obtain ⟨g, hg, hmem⟩ := (Option.any_eq_true _ _).1 hother
  rw [beq_eq_false_iff_ne, hg]
  rintro heq
  obtain rfl := Option.some.inj heq
  exact hf (List.contains_iff_mem.1 hmem)

theorem any_bareAll {f : String} (hf : f ∉ parameterOtherFields) (ns : List Node) :
    ((bareAll ns).any fun c => c.field == some f) = ns.any fun c => c.field == some f := by
  induction ns with
  | nil => rfl
  | cons c ns ih =>
    rw [bareAll, List.any_cons]
    split
    case isTrue hother => rw [ih, field_beq_of_other hf hother, Bool.false_or]
    case isFalse => rw [List.any_cons, ih, field_bare]

theorem find?_any_bareAll (ns : List Node) :
    (parameterNameFields.find? fun f => (bareAll ns).any fun c => c.field == some f)
      = parameterNameFields.find? fun f => ns.any fun c => c.field == some f := by
  apply List.find?_congr
  intro f hf
  exact any_bareAll (nameFields_apart f hf) ns

mutual

theorem parameterName?_bare : ∀ n : Node, n.bare.parameterName? = n.parameterName?
  | ⟨kind, text, start, stop, isNamed, field, children⟩ => by
    rw [bare]
    split
    case isTrue hskipped =>
      rw [parameterName?_of_skipped (List.contains_iff_mem.1 hskipped),
        parameterName?_of_skipped (List.contains_iff_mem.1 hskipped)]
    case isFalse hkept =>
      rw [parameterName?, parameterName?, find?_any_bareAll, firstName?_bareAll children]
      cases hfirst : parameterNameFields.find? fun f => children.any fun c => c.field == some f with
      | none => rfl
      | some f =>
        have hf := nameFields_apart f (List.mem_of_find?_eq_some hfirst)
        dsimp only
        rw [nameUnder?_bareAll hf children]

theorem nameUnder?_bareAll {f : String} (hf : f ∉ parameterOtherFields) : ∀ ns : List Node,
    nameUnder? f (bareAll ns) = nameUnder? f ns
  | [] => rfl
  | c :: ns => by
    rw [bareAll, nameUnder?]
    split
    case isTrue hother =>
      rw [nameUnder?_bareAll hf ns, field_beq_of_other hf hother]
      rfl
    case isFalse => rw [nameUnder?, field_bare, parameterName?_bare c, nameUnder?_bareAll hf ns]

theorem firstName?_bareAll : ∀ ns : List Node, firstName? (bareAll ns) = firstName? ns
  | [] => rfl
  | c :: ns => by
    rw [bareAll, firstName?]
    split
    case isTrue hother =>
      rw [firstName?_bareAll ns, hother, Bool.not_true, Bool.and_false]
      rfl
    case isFalse =>
      rw [firstName?, field_bare, isNamed_bare, parameterName?_bare c, firstName?_bareAll ns]

end

end Bare

section Lists

theorem exists_sources {α β : Type} (f : α → Option β) (l : List α) :
    ∃ kept : List α, kept.Sublist l ∧
      List.Forall₂ (fun a b => f a = some b) kept (l.filterMap f) := by
  induction l with
  | nil => exact ⟨[], .slnil, .nil⟩
  | cons a l ih =>
    obtain ⟨kept, hkept, hsources⟩ := ih
    rw [List.filterMap_cons]
    cases ha : f a with
    | none => exact ⟨kept, hkept.cons a, hsources⟩
    | some b => exact ⟨a :: kept, hkept.cons_cons a, .cons ha hsources⟩

theorem parameterNames_eq_filterMap (list : Node) (receivers : List String) :
    list.parameterNames receivers
      = behindReceiver receivers (list.namedChildren.filterMap parameterName?) := by
  have hkept : (list.namedChildren.filter fun c => !parameterSkipped.contains c.kind).filterMap
      parameterName? = list.namedChildren.filterMap parameterName? := by
    rw [List.filterMap_filter]
    apply List.filterMap_congr
    intro c _
    split
    case isTrue => rfl
    case isFalse hskipped =>
      rw [parameterName?_of_skipped (by simpa using hskipped)]
  rw [parameterNames_eq, parameterNames, hkept]
  cases list.namedChildren.filterMap parameterName? <;> rfl

theorem exists_holders (list : Node) (receivers : List String) :
    ∃ holders : List Node, holders.Sublist list.namedChildren ∧
      List.Forall₂ (fun c name => c.parameterName? = some name) holders
        (list.parameterNames receivers) := by
  obtain ⟨holders, hkept, hnames⟩ := exists_sources parameterName? list.namedChildren
  rw [parameterNames_eq_filterMap, behindReceiver]
  generalize list.namedChildren.filterMap parameterName? = names at hnames ⊢
  split
  · refine ⟨holders.tail, (List.tail_sublist holders).trans hkept, ?_⟩
    cases hnames with
    | nil => exact .nil
    | cons _ htail => exact htail
  · exact ⟨holders, hkept, hnames⟩

def withBareParameters (list : Node) : Node := { list with children := list.children.map bare }

theorem parameterNames_withBareParameters (list : Node) (receivers : List String) :
    list.withBareParameters.parameterNames receivers = list.parameterNames receivers := by
  have hnamed : list.withBareParameters.namedChildren = list.namedChildren.map bare := by
    rw [namedChildren, withBareParameters, List.filter_map]
    congr 1
    apply List.filter_congr
    exact fun c _ => isNamed_bare c
  rw [parameterNames_eq_filterMap, parameterNames_eq_filterMap, hnamed, List.filterMap_map]
  congr 1
  apply List.filterMap_congr
  exact fun c _ => parameterName?_bare c

end Lists

/-- The name of a parameter is that of a node which no type, no value and nothing that is passed over
leads to, and there is none only where nothing that is looked at is a name. A list gives at most one
name for each of its named children, in their order. Without types, values, and what stands in
decorators or comments all names are the same. -/
theorem parameters_bind (n list : Node) (receivers : List String) :
    ((∀ name, n.parameterName? = some name → n.Binds name) ∧
      (n.parameterName? = none ↔ ∀ d name, n.Unwraps d → ¬ d.Spells name) ∧
      n.bare.parameterName? = n.parameterName?) ∧
    (∃ holders : List Node, holders.Sublist list.namedChildren ∧
      List.Forall₂ (fun c name => c.parameterName? = some name ∧ c.Binds name) holders
        (list.parameterNames receivers)) ∧
    list.parameterNames receivers
      = behindReceiver receivers (list.namedChildren.filterMap parameterName?) ∧
    list.withBareParameters.parameterNames receivers = list.parameterNames receivers := by
  obtain ⟨holders, hsublist, hnames⟩ := exists_holders list receivers
  refine ⟨⟨fun name => binds_of_parameterName?, parameterName?_eq_none_iff n, parameterName?_bare n⟩,
    ⟨holders, hsublist, ?_⟩, parameterNames_eq_filterMap list receivers,
    parameterNames_withBareParameters list receivers⟩
  exact hnames.imp fun _ _ hname => ⟨hname, binds_of_parameterName? hname⟩

def decoratedParameter : Node :=
  named "required_parameter" "@Inject private a: T = b" none [
    named "decorator" "@Inject" none [named "identifier" "Inject" none []],
    named "accessibility_modifier" "private" none [],
    named "identifier" " a " (some "pattern") [],
    named "type_annotation" ": T" (some "type") [named "identifier" "T" none []],
    named "identifier" "b" (some "value") []]

def decoratedList : Node :=
  parameterList [named "comment" "/* c */" none [], decoratedParameter,
    named "rest_pattern" "...\n  rest" none []]

theorem parameters_bind_decoratedList :
    decoratedParameter.parameterName? = some "a" ∧ decoratedParameter.Binds "a" ∧
      decoratedList.parameterNames ["this"] = ["a", "... rest"] ∧
      decoratedList.withBareParameters.parameterNames ["this"] = ["a", "... rest"] := by
  have hname : decoratedParameter.parameterName? = some "a" := by decide +kernel
  have hnames : decoratedList.parameterNames ["this"] = ["a", "... rest"] := by decide +kernel
  obtain ⟨⟨hbinds, -⟩, -, -, hbare⟩ := parameters_bind decoratedParameter decoratedList ["this"]
  exact ⟨hname, hbinds "a" hname, hnames, hbare.trans hnames⟩

end SourceDigest.Syntax.Node
