import SourceDigest.Syntax.Grammar

namespace SourceDigest.Syntax.Grammars

variable {γ : Type}

structure Step (γ : Type) where
  language : Language
  load : Except Error γ

structure Event (γ : Type) where
  step : Step γ
  held : Grammars γ
  outcome : Request γ

def history (g : Grammars γ) : List (Step γ) → List (Event γ)
  | [] => []
  | s :: steps =>
    let r := g.request s.load s.language
    ⟨s, g, r⟩ :: history r.grammars steps

theorem map_step_history (g : Grammars γ) (steps : List (Step γ)) :
    (history g steps).map Event.step = steps := by
  induction steps generalizing g with
  | nil => rfl
  | cons s steps ih => exact congrArg (s :: ·) (ih _)

theorem request_cases (g : Grammars γ) (load : Except Error γ) (l : Language) :
    (∃ grammar, g.get? l = some grammar ∧ g.request load l = ⟨.ok grammar, g, false⟩) ∨
    (g.get? l = none ∧ ∃ error, load = .error error ∧
      g.request load l = ⟨.error error, g, true⟩) ∨
    (g.get? l = none ∧ ∃ grammar, load = .ok grammar ∧
      g.request load l = ⟨.ok grammar, (l, grammar) :: g, true⟩) := by
  unfold request
  cases g.get? l with
  | some grammar => exact .inl ⟨grammar, rfl, rfl⟩
  | none =>
    cases load with
    | error error => exact .inr (.inl ⟨rfl, error, rfl, rfl⟩)
    | ok grammar => exact .inr (.inr ⟨rfl, grammar, rfl, rfl⟩)

theorem get?_cons (g : Grammars γ) (k l : Language) (grammar : γ) :
    get? ((k, grammar) :: g) l = if k = l then some grammar else g.get? l := by
  unfold get?
  rw [List.lookup_cons]
  by_cases h : k = l
  · rw [if_pos h, beq_iff_eq.2 h.symm]
  · rw [if_neg h, beq_eq_false_iff_ne.2 (Ne.symm h)]

theorem get?_request_eq_some_iff {g : Grammars γ} {load : Except Error γ} {k l : Language}
    {grammar : γ} :
    (g.request load k).grammars.get? l = some grammar ↔
      g.get? l = some grammar ∨ k = l ∧ (g.request load k).answer = .ok grammar := by
  obtain ⟨held, hg, hr⟩ | ⟨-, error, -, hr⟩ | ⟨hg, loaded, -, hr⟩ := request_cases g load k <;>
    rw [hr]
  · simp only [Except.ok.injEq, iff_self_or, and_imp]
    rintro rfl rfl
    exact hg
  · simp
  · by_cases hkl : k = l
    · subst hkl
      simp [get?_cons, hg]
    · simp [get?_cons, hkl]

variable {g : Grammars γ} {steps : List (Step γ)} {earlier later : List (Event γ)} {e : Event γ}

theorem get?_held_eq_some_iff (h : history g steps = earlier ++ e :: later) {l : Language}
    {grammar : γ} :
    e.held.get? l = some grammar ↔ g.get? l = some grammar ∨
      ∃ d ∈ earlier, d.step.language = l ∧ d.outcome.answer = .ok grammar := by
  induction steps generalizing g earlier with
  | nil => cases earlier <;> cases h
  | cons s steps ih =>
    cases earlier with
    | nil =>
      cases h
      simp
    | cons d earlier =>
      obtain ⟨rfl, hrest⟩ := List.cons.inj h
      simp only [ih hrest, get?_request_eq_some_iff, List.mem_cons, exists_eq_or_imp, or_assoc]

theorem outcome_of_mem_history (h : e ∈ history g steps) :
    e.outcome = e.held.request e.step.load e.step.language := by
  induction steps generalizing g with
  | nil => cases h
  | cons s steps ih =>
    rcases List.mem_cons.1 h with rfl | h
    · rfl
    · exact ih h

def Event.Succeeds (e : Event γ) : Prop := ∃ grammar, e.outcome.answer = .ok grammar

theorem get?_held_eq_none_iff (h : history [] steps = earlier ++ e :: later) {l : Language} :
    e.held.get? l = none ↔ ∀ d ∈ earlier, d.step.language = l → ¬ d.Succeeds := by
  rw [Option.eq_none_iff_forall_ne_some]
  constructor
  · rintro hnone d hd hl ⟨grammar, hok⟩
    exact hnone grammar ((get?_held_eq_some_iff h).2 (.inr ⟨d, hd, hl, hok⟩))
  · intro hfail grammar hsome
    obtain hnil | ⟨d, hd, hl, hok⟩ := (get?_held_eq_some_iff h).1 hsome
    · cases hnil
    · exact hfail d hd hl ⟨grammar, hok⟩

theorem requests_load_once (h : history [] steps = earlier ++ e :: later) :
    steps = earlier.map Event.step ++ e.step :: later.map Event.step ∧
    (e.outcome.loads = true ↔
      ∀ d ∈ earlier, d.step.language = e.step.language → ¬ d.Succeeds) ∧
    (e.outcome.loads = true → e.outcome.answer = e.step.load) ∧
    (¬ e.Succeeds → ∃ error, e.step.load = .error error ∧
      e.outcome = ⟨.error error, e.held, true⟩) ∧
    (∀ l grammar, e.held.get? l = some grammar → e.outcome.grammars.get? l = some grammar) ∧
    ∀ d ∈ earlier, d.step.language = e.step.language → ∀ grammar,
      d.outcome.answer = .ok grammar → e.outcome = ⟨.ok grammar, e.held, false⟩ := by
  have hsteps : steps = earlier.map Event.step ++ e.step :: later.map Event.step := by
    rw [← map_step_history [] steps, h, List.map_append, List.map_cons]
  have hmem : e ∈ history [] steps := h ▸ List.mem_append_right earlier List.mem_cons_self
  have hout := outcome_of_mem_history hmem
  have hkept : ∀ l grammar, e.held.get? l = some grammar →
      e.outcome.grammars.get? l = some grammar := fun l grammar hl => by
    rw [hout]
    exact get?_request_eq_some_iff.2 (.inl hl)
  have hlater : ∀ d ∈ earlier, d.step.language = e.step.language → ∀ grammar,
      d.outcome.answer = .ok grammar → e.outcome = ⟨.ok grammar, e.held, false⟩ :=
    fun d hd hl grammar hok => by
      rw [hout]
      exact request_of_get? ((get?_held_eq_some_iff h).2 (.inr ⟨d, hd, hl, hok⟩)) _
  rw [← get?_held_eq_none_iff h]
  unfold Event.Succeeds
  obtain ⟨grammar, hheld, hr⟩ | ⟨hnone, error, hload, hr⟩ | ⟨hnone, grammar, hload, hr⟩ :=
    request_cases e.held e.step.load e.step.language <;> rw [← hout] at hr
  · refine ⟨hsteps, ?_, ?_, ?_, hkept, hlater⟩ <;> simp [hr, hheld]
  · refine ⟨hsteps, ?_, ?_, ?_, hkept, hlater⟩ <;> simp [hr, hnone, hload]
  · refine ⟨hsteps, ?_, ?_, ?_, hkept, hlater⟩ <;> simp [hr, hnone, hload]

def restlessSteps : List (Step Nat) := [
  ⟨.python, .error (.grammarLoad "python" "boom")⟩, ⟨.rust, .ok 2⟩, ⟨.python, .ok 3⟩,
  ⟨.rust, .error .emptyContent⟩]

theorem requests_load_once_restless :
    ∃ e, history [] (restlessSteps ++ [⟨.python, .error .emptyContent⟩]) =
        history [] restlessSteps ++ [e] ∧
      e.outcome.answer = .ok 3 ∧ e.outcome.loads = false := by
  have hhistory : history [] (restlessSteps ++ [⟨.python, .error .emptyContent⟩]) =
      history [] restlessSteps ++ [_] := rfl
  obtain ⟨-, -, -, -, -, hlater⟩ := requests_load_once hhistory
  have hthird := hlater _ (.tail _ (.tail _ (.head _))) rfl 3 rfl
  exact ⟨_, hhistory, congrArg Request.answer hthird, congrArg Request.loads hthird⟩

end SourceDigest.Syntax.Grammars
