import Mathlib.Data.List.Perm.Basic
import SourceDigest.Analysis.Analyze
import SourceDigest.Proofs.Analysis.Pool

namespace SourceDigest.Analysis

open Syntax (Grammar Grammars Language)

inductive Fate where
  | unread
  | noGrammar
  | unparsed (e : Syntax.Error)
  | answered (o : Extraction.Outcome)

def fateOf (env : Environment) (timeout : Option Duration) (path source : String) : Fate :=
  match Language.ofPath? ⟨path⟩ with
  | none => .noGrammar
  | some l =>
    if Syntax.isBlankText source then .unparsed .emptyContent
    else
      match env.load l with
      | .error e => .unparsed e
      | .ok g =>
        match g.parse l timeout source with
        | .error e => .unparsed e
        | .ok tree => .answered (Extraction.extract env.model env.sampling path tree)

def fateAt (env : Environment) (timeout : Option Duration) (root : Path) (path : String) : Fate :=
  match env.system.read (root.join path) with
  | .error _ => .unread
  | .ok source => fateOf env timeout path source

def Fate.outcome? : Fate → Option Extraction.Outcome
  | .answered o => some o
  | _ => none

def parseRecord? (path : String) : Fate → Option LogRecord
  | .unparsed e => some (warning ("Failed to parse " ++ path ++ ": " ++ e.message))
  | _ => none

def outcomeRecord? (path : String) : Extraction.Outcome → Option LogRecord
  | .insights _ => none
  | .failed e => some (warning ("Insight extraction failed for " ++ path ++ ": " ++ e.message))
  | .abandoned => some (warning ("Insight extraction task for " ++ path ++ " aborted"))

def Fate.record? (path : String) (fate : Fate) : Option LogRecord :=
  (parseRecord? path fate).or (fate.outcome?.bind (outcomeRecord? path))

variable {load : Language → Except Syntax.Error Grammar} {g : Grammars Grammar}

def Agrees (load : Language → Except Syntax.Error Grammar) (g : Grammars Grammar) : Prop :=
  ∀ l grammar, g.get? l = some grammar → load l = .ok grammar

theorem agrees_nil (load : Language → Except Syntax.Error Grammar) : Agrees load [] := by
  intro l grammar h
  cases h

theorem agrees_cons {l : Language} {grammar : Grammar} (h : Agrees load g)
    (hl : load l = .ok grammar) : Agrees load ((l, grammar) :: g) := by
  intro k other hk
  by_cases hkl : k = l
  · subst hkl
    rw [Grammars.get?, List.lookup_cons, beq_self_eq_true] at hk
    cases hk
    exact hl
  · rw [Grammars.get?, List.lookup_cons, beq_eq_false_iff_ne.2 hkl] at hk
    exact h k other hk

theorem request_of_agrees (h : Agrees load g) (l : Language) :
    (g.request (load l) l).answer = load l ∧ Agrees load (g.request (load l) l).grammars := by
  unfold Grammars.request
  cases hg : g.get? l with
  | some grammar => exact ⟨(h l grammar hg).symm, h⟩
  | none =>
    cases hl : load l with
    | error e => exact ⟨rfl, h⟩
    | ok grammar => exact ⟨rfl, agrees_cons h hl⟩

theorem agrees_parse (h : Agrees load g) (timeout : Option Duration) (source : String)
    (l : Language) : Agrees load (Syntax.parse g load timeout source l).2 := by
  have hagrees := (request_of_agrees h l).2
  unfold Syntax.parse
  dsimp only
  split
  · exact h
  · cases (g.request (load l) l).answer <;> exact hagrees

theorem fateOf_eq_parse {env : Environment} (h : Agrees env.load g) (timeout : Option Duration)
    {path : String} {l : Language} (hl : Language.ofPath? ⟨path⟩ = some l) (source : String) :
    fateOf env timeout path source =
      match (Syntax.parse g env.load timeout source l).1 with
      | .ok tree => .answered (Extraction.extract env.model env.sampling path tree)
      | .error e => .unparsed e := by
  simp only [fateOf, hl, Syntax.parse]
  split
  · rfl
  · have hanswer := (request_of_agrees h l).1
    cases hload : env.load l with
    | error e =>
      rw [hload] at hanswer
      rw [hanswer]
    | ok grammar =>
      rw [hload] at hanswer
      rw [hanswer]
      dsimp only
      cases grammar.parse l timeout source <;> rfl

def outcomesOf (env : Environment) (tasks : List Task) : List (String × Extraction.Outcome) :=
  tasks.map fun t => (t.path, Extraction.extract env.model env.sampling t.path t.tree)

theorem parseSources_fate (env : Environment) (timeout : Option Duration)
    (g : Grammars Grammar) (h : Agrees env.load g) (sources : List (String × String)) :
    outcomesOf env (parseSources env.load timeout g sources).value =
        sources.filterMap (fun f => (fateOf env timeout f.1 f.2).outcome?.map (f.1, ·)) ∧
      (parseSources env.load timeout g sources).log =
        sources.filterMap (fun f => parseRecord? f.1 (fateOf env timeout f.1 f.2)) := by
  induction sources generalizing g with
  | nil => exact ⟨rfl, rfl⟩
  | cons f sources ih =>
    obtain ⟨path, source⟩ := f
    simp only [parseSources, List.filterMap_cons]
    cases hl : Language.ofPath? ⟨path⟩ with
    | none =>
      have hfate : fateOf env timeout path source = .noGrammar := by
        simp only [fateOf, hl]
      rw [hfate]
      exact ih g h
    | some l =>
      rw [fateOf_eq_parse h timeout hl source]
      have hg := agrees_parse h timeout source l
      simp only
      generalize Syntax.parse g env.load timeout source l = parsed at hg ⊢
      obtain ⟨tree, g'⟩ := parsed
      obtain ⟨ihv, ihl⟩ := ih g' hg
      cases tree with
      | error e => exact ⟨ihv, congrArg (List.cons _) ihl⟩
      | ok tree => exact ⟨congrArg (List.cons _) ihv, ihl⟩

theorem gatherInsights_log (outcomes : List (String × Extraction.Outcome)) :
    (gatherInsights outcomes).log = outcomes.filterMap fun e => outcomeRecord? e.1 e.2 := by
  suffices hfold : ∀ acc : Logged (Dict Insights),
      (outcomes.foldl _ acc).log = acc.log ++ outcomes.filterMap fun e => outcomeRecord? e.1 e.2 by
    exact hfold ⟨.empty, []⟩
  intro acc
  induction outcomes generalizing acc with
  | nil => simp
  | cons e outcomes ih =>
    obtain ⟨path, o⟩ := e
    rw [List.foldl_cons, ih, List.filterMap_cons]
    cases o with
    | insights i => rfl
    | failed e => simp [outcomeRecord?]
    | abandoned => simp [outcomeRecord?]

def insightsFor? (p : String) : String × Extraction.Outcome → Option Insights
  | (path, .insights i) => if path = p then some i else none
  | _ => none

theorem get?_gatherInsights (outcomes : List (String × Extraction.Outcome)) (p : String) :
    (gatherInsights outcomes).value.get? p = (outcomes.filterMap (insightsFor? p)).getLast? := by
  suffices hfold : ∀ acc : Logged (Dict Insights),
      (outcomes.foldl _ acc).value.get? p =
        ((outcomes.filterMap (insightsFor? p)).getLast?).or (acc.value.get? p) by
    rw [gatherInsights, hfold ⟨.empty, []⟩, Dict.get?_empty, Option.or_none]
  intro acc
  induction outcomes generalizing acc with
  | nil => rfl
  | cons e outcomes ih =>
    obtain ⟨path, o⟩ := e
    rw [List.foldl_cons, ih, List.filterMap_cons]
    cases o with
    | insights i =>
      simp only [insightsFor?, Dict.get?_insert]
      by_cases hp : path = p
      · simp only [if_pos hp, List.getLast?_cons, Option.some_or]
        cases (outcomes.filterMap (insightsFor? p)).getLast? <;> rfl
      · simp only [if_neg hp]
    | failed e => rfl
    | abandoned => rfl

theorem get?_gatherInsights_eq_some_iff {outcomes : List (String × Extraction.Outcome)}
    (h : ∀ a ∈ outcomes, ∀ b ∈ outcomes, a.1 = b.1 → a.2 = b.2) (p : String) (i : Insights) :
    (gatherInsights outcomes).value.get? p = some i ↔ (p, .insights i) ∈ outcomes := by
  have hmem : ∀ j, j ∈ outcomes.filterMap (insightsFor? p) ↔ (p, .insights j) ∈ outcomes := by
    intro j
    rw [List.mem_filterMap]
    constructor
    · rintro ⟨⟨path, o⟩, ho, hj⟩
      cases o with
      | insights k =>
        simp only [insightsFor?, Option.ite_none_right_eq_some, Option.some.injEq] at hj
        obtain ⟨rfl, rfl⟩ := hj
        exact ho
      | failed e => cases hj
      | abandoned => cases hj
    · intro hj
      exact ⟨_, hj, by simp [insightsFor?]⟩
  rw [get?_gatherInsights]
  constructor
  · intro hlast
    exact (hmem i).1 (List.mem_of_getLast? hlast)
  · intro hi
    have hne : outcomes.filterMap (insightsFor? p) ≠ [] := List.ne_nil_of_mem ((hmem i).2 hi)
    have hlast := (hmem _).1 (List.getLast_mem hne)
    have heq := h _ hlast _ hi rfl
    rw [List.getLast?_eq_some_getLast hne]
    simp only [Extraction.Outcome.insights.injEq] at heq
    rw [heq]

end SourceDigest.Analysis
