import SourceDigest.Proofs.Syntax.Composition

namespace SourceDigest.Syntax

open Contribution

namespace Node

def firstArgument? (n : Node) : Option Node :=
  (n.child? "arguments").bind (·.namedChildren.head?)

def literal? (a : Node) : Option String :=
  if literalKinds.contains a.kind then a.plainText? else none

theorem plainText?_eq_some_iff {n : Node} {s : String} :
    n.plainText? = some s ↔ dequote n.text = s ∧ s ≠ "" := by
  rw [plainText?]
  split
  case isTrue h =>
    rw [h]
    constructor
    · intro hs
      cases hs
    · rintro ⟨rfl, hs⟩
      exact absurd rfl hs
  case isFalse h =>
    rw [Option.some_inj]
    constructor
    · rintro rfl
      exact ⟨rfl, h⟩
    · exact fun hs => hs.1

theorem literal?_eq_some_iff {a : Node} {s : String} :
    a.literal? = some s ↔ a.kind ∈ literalKinds ∧ dequote a.text = s ∧ s ≠ "" := by
  rw [literal?, ← plainText?_eq_some_iff]
  split
  case isTrue h => simp [List.contains_iff_mem.1 h]
  case isFalse h => simp [mt List.contains_iff_mem.2 h]

def callSources (n : Node) (callees : List String) : List String :=
  if n.needsSource (.call callees) then (n.firstArgument?.bind literal?).toList else []

theorem outline_callContribution (n : Node) (callees : List String) :
    (n.callContribution callees).outline = (ofImports (n.callSources callees)).outline := by
  rw [callContribution, callSources, needsSource]
  cases hcallee : n.child? "function" with
  | none => rfl
  | some callee =>
    simp only [Option.any_some]
    split
    · cases hargument : n.firstArgument? with
      | none =>
        rw [firstArgument?] at hargument
        rw [hargument]
        rfl
      | some a =>
        rw [firstArgument?] at hargument
        rw [hargument, Option.bind_some, literal?]
        by_cases hliteral : literalKinds.contains a.kind = true
        · simp only [if_pos hliteral]
          cases a.plainText? with
          | none => rfl
          | some source => rfl
        · simp only [if_neg hliteral]
          rfl
    · rfl

structure ImportsFirst (n a : Node) : Prop where
  callee : ∃ c, n.child? "function" = some c ∧
    (Text.trim c.text = "require" ∨ Text.trim c.text = "import")
  argument : ∃ list, n.child? "arguments" = some list ∧ list.namedChildren.head? = some a

theorem importsFirst_iff {n a : Node} :
    n.ImportsFirst a ↔
      n.needsSource (.call ["require", "import"]) = true ∧ n.firstArgument? = some a := by
  constructor
  · rintro ⟨⟨c, hc, htext⟩, list, hlist, ha⟩
    refine ⟨?_, ?_⟩
    · rw [needsSource, hc, Option.any_some]
      simpa using htext
    · rw [firstArgument?, hlist, Option.bind_some, ha]
  · rintro ⟨hcallee, ha⟩
    obtain ⟨c, hc, htext⟩ := (Option.any_eq_true _ _).1 hcallee
    exact ⟨⟨c, hc, by simpa using htext⟩, Option.bind_eq_some_iff.1 ha⟩

theorem ImportsFirst.unique {n a b : Node} (ha : n.ImportsFirst a) (hb : n.ImportsFirst b) :
    a = b := by
  have hfirst := (importsFirst_iff.1 ha).2
  rw [(importsFirst_iff.1 hb).2] at hfirst
  exact (Option.some.inj hfirst).symm

def IsComputed (a : Node) : Prop :=
  a.kind = "template_string" ∧ ∃ d ∈ a.children.flatMap preorder, d.kind = "template_substitution"

def IsStatic (a : Node) : Prop :=
  a.kind = "string" ∨ a.kind = "template_string" ∧
    ∀ d ∈ a.children.flatMap preorder, d.kind ≠ "template_substitution"

theorem isStatic_iff {a : Node} : a.IsStatic ↔ a.kind ∈ literalKinds ∧ ¬ a.IsComputed := by
  rw [IsStatic, IsComputed, literalKinds, List.mem_cons, List.mem_singleton]
  constructor
  · rintro (hstring | ⟨htemplate, hbelow⟩)
    · refine ⟨Or.inl hstring, ?_⟩
      rintro ⟨htemplate, -⟩
      rw [hstring] at htemplate
      exact absurd htemplate (by decide)
    · exact ⟨Or.inr htemplate, fun ⟨_, d, hd, hkind⟩ => hbelow d hd hkind⟩
  · rintro ⟨hstring | htemplate, hcomputed⟩
    · exact Or.inl hstring
    · exact Or.inr ⟨htemplate, fun d hd hkind => hcomputed ⟨htemplate, d, hd, hkind⟩⟩

def ImportsStatic (n : Node) (source : String) : Prop :=
  ∃ a, n.ImportsFirst a ∧ a.IsStatic ∧ dequote a.text = source ∧ source ≠ ""

theorem contribution_of_call {n : Node} (h : n.kind = "call_expression") :
    n.contribution = n.callContribution ["require", "import"] := by
  have hkind : Construct.ofKind? n.kind = some (.imports (.call ["require", "import"])) := by
    rw [h]
    rfl
  rw [contribution_of_imports hkind, importContribution]

theorem imports_eq_singleton_iff {n : Node} (h : n.kind = "call_expression") {source : String} :
    n.contribution.outline.imports = [⟨source⟩] ↔
      ∃ a, n.ImportsFirst a ∧ a.kind ∈ literalKinds ∧ dequote a.text = source ∧ source ≠ "" := by
  rw [contribution_of_call h, outline_callContribution]
  show (n.callSources _).map Import.mk = [⟨source⟩] ↔ _
  simp only [importsFirst_iff, ← literal?_eq_some_iff]
  rw [callSources]
  split
  case isTrue hneeds =>
    cases hargument : n.firstArgument? with
    | none => simp
    | some a => cases hliteral : a.literal? <;> simp [hneeds, hliteral]
  case isFalse hneeds => simp [hneeds]

theorem length_imports_le {n : Node} (h : n.kind = "call_expression") :
    n.contribution.outline.imports.length ≤ 1 := by
  rw [contribution_of_call h, outline_callContribution]
  show ((n.callSources _).map Import.mk).length ≤ 1
  rw [List.length_map, callSources]
  split
  · exact Option.length_toList_le
  · exact Nat.zero_le 1

theorem imports_of_calls (tree : Node) :
    tree.condense.imports = tree.preorder.flatMap (·.contribution.outline.imports) ∧
      ∀ n ∈ tree.preorder, n.kind = "call_expression" →
        n.contribution.outline.imports.length ≤ 1 ∧
        (∀ source, n.contribution.outline.imports = [⟨source⟩] ↔
          ∃ a, n.ImportsFirst a ∧ a.kind ∈ literalKinds ∧ dequote a.text = source ∧ source ≠ "") ∧
        ((∀ source, n.contribution.outline.imports = [⟨source⟩] ↔ n.ImportsStatic source) ↔
          ∀ a, n.ImportsFirst a → a.IsComputed → dequote a.text = "") := by
  refine ⟨@read_contributions _ (·.outline.imports) rfl (fun _ _ => rfl) tree, ?_⟩
  intro n _ hkind
  refine ⟨length_imports_le hkind, fun source => imports_eq_singleton_iff hkind, ?_⟩
  simp only [imports_eq_singleton_iff hkind, ImportsStatic, isStatic_iff]
  constructor
  · intro hstatic a ha hcomputed
    by_contra htext
    have hliteral : a.kind ∈ literalKinds := by simp [literalKinds, hcomputed.1]
    obtain ⟨b, hb, ⟨-, hnot⟩, -⟩ := (hstatic _).1 ⟨a, ha, hliteral, rfl, htext⟩
    exact hnot (ha.unique hb ▸ hcomputed)
  · intro hcomputed source
    constructor
    · rintro ⟨a, ha, hliteral, rfl, htext⟩
      exact ⟨a, ha, ⟨hliteral, fun h => htext (hcomputed a ha h)⟩, rfl, htext⟩
    · rintro ⟨a, ha, ⟨hliteral, -⟩, hsource⟩
      exact ⟨a, ha, hliteral, hsource⟩

def requireOf (arguments : List Node) : Node :=
  named "call_expression" "" none [
    named "identifier" "require" (some "function") [],
    named "arguments" "" (some "arguments") arguments]

def fsLiteral : Node := named "string" "'fs'" none []

def twoModules : Node :=
  named "program" "" none [requireOf [fsLiteral], requireOf [named "identifier" "name" none []]]

theorem imports_of_calls_twoModules :
    requireOf [fsLiteral] ∈ twoModules.preorder ∧ (requireOf [fsLiteral]).kind = "call_expression" ∧
      (requireOf [fsLiteral]).ImportsStatic "fs" ∧ twoModules.condense.imports = [⟨"fs"⟩] := by
  have hmem : requireOf [fsLiteral] ∈ twoModules.preorder := by
    rw [preorder_cons, twoModules, named, List.flatMap_cons, preorder_cons]
    simp
  have hcomputed : ∀ a, (requireOf [fsLiteral]).ImportsFirst a → a.IsComputed →
      dequote a.text = "" := by
    rintro a ha ⟨hkind, -⟩
    obtain rfl := Option.some.inj (importsFirst_iff.1 ha).2
    exact absurd hkind (by decide)
  have himports : (requireOf [fsLiteral]).contribution.outline.imports = [⟨"fs"⟩] := by
    decide +kernel
  obtain ⟨-, -, hstatic⟩ := (imports_of_calls twoModules).2 _ hmem rfl
  exact ⟨hmem, rfl, (hstatic.2 hcomputed "fs").1 himports, by decide +kernel⟩

def substitution : Node := named "template_substitution" "$\x7bx\x7d" none []

def requireTemplate : Node :=
  requireOf [named "template_string" "`./$\x7bx\x7d`" none [substitution]]

theorem imports_requireTemplate :
    requireTemplate.condense.imports = [⟨"./$\x7bx\x7d"⟩] ∧
      ∀ source, ¬ requireTemplate.ImportsStatic source := by
  refine ⟨by decide +kernel, ?_⟩
  rintro source ⟨a, ha, hstatic, -⟩
  obtain rfl := Option.some.inj (importsFirst_iff.1 ha).2
  refine (isStatic_iff.1 hstatic).2 ⟨rfl, substitution, ?_, rfl⟩
  rw [named, List.flatMap_cons, preorder_cons]
  simp

end Node

end SourceDigest.Syntax
