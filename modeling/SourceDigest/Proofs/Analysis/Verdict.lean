import SourceDigest.Proofs.Analysis.Insights

namespace SourceDigest.Analysis

variable {σ τ : Type}

def Sink.recorded (sink : Sink σ) : Sink (σ × List Digest) := fun (store, given) d =>
  let (result, store) := sink store d
  (result, (store, given ++ [d]))

def Ending.digest? : Ending → Option Digest
  | .digest d => some d
  | _ => none

@[simp] theorem ending_keep (run : Run) (sink : Option (Sink σ)) (store : σ) :
    (run.keep sink store).1.ending = run.ending := by
  unfold Run.keep
  split
  · split <;> rfl
  · rfl

@[simp] theorem asked_keep (run : Run) (sink : Option (Sink σ)) (store : σ) :
    (run.keep sink store).1.asked = run.asked := by
  unfold Run.keep
  split
  · split <;> rfl
  · rfl

theorem given_keep (run : Run) (sink : Option (Sink σ)) (store : σ) (given : List Digest) :
    (run.keep (sink.map Sink.recorded) (store, given)).2.2 =
      given ++ if sink.isSome then run.ending.digest?.toList else [] := by
  cases sink with
  | none => simp [Run.keep]
  | some sink =>
    cases hending : run.ending with
    | failed e => simp [Run.keep, hending, Ending.digest?]
    | noPool => simp [Run.keep, hending, Ending.digest?]
    | digest d =>
      rcases hkept : sink store d with ⟨_ | _, kept⟩
      · simp [Run.keep, hending, Sink.recorded, hkept, Ending.digest?]
      · simp [Run.keep, hending, Sink.recorded, hkept, Ending.digest?]

variable {env : Environment} {settings : Settings} {paths : List Path}

theorem analyze_of_error {e : Error}
    (h : select env.system env.counter settings paths = .error e) :
    analyze env settings paths = ⟨.failed e, [], []⟩ := by
  simp only [analyze, h]

/-- Of two runs that differ in the answers from outside and in their sinks, both end in one error, with
nothing asked and no sink told, or both in a digest of the same files, told to each sink once. -/
theorem verdict_of_inputs (hpool : settings.poolTooLarge = false)
    (load : Syntax.Language → Except Syntax.Error Syntax.Grammar)
    (readManifest : Path → Logged (Option Manifest)) (model : Model) (pick : Nat → Nat)
    (now : UInt64) (sink : Option (Sink σ)) (sink' : Option (Sink τ)) (store : σ) (store' : τ) :
    let other : Environment := { env with
      load := load, readManifest := readManifest, model := model, pick := pick, now := now }
    let first := (analyze env settings paths).keep (sink.map Sink.recorded) (store, [])
    let second := (analyze other settings paths).keep (sink'.map Sink.recorded) (store', [])
    (∃ e, first.1.ending = .failed e ∧ second.1.ending = .failed e ∧
      first.1.asked = [] ∧ second.1.asked = [] ∧ first.2.2 = [] ∧ second.2.2 = []) ∨
    ∃ d d', first.1.ending = .digest d ∧ second.1.ending = .digest d' ∧
      d.files = d'.files ∧ d.content = d'.content ∧ d.totalTokens = d'.totalTokens ∧
      first.2.2 = (if sink.isSome then [d] else []) ∧
      second.2.2 = if sink'.isSome then [d'] else [] := by
  intro other
  simp only [ending_keep, asked_keep, given_keep, List.nil_append]
  cases hs : select env.system env.counter settings paths with
  | error e =>
    have hother : select other.system other.counter settings paths = .error e := hs
    rw [analyze_of_error hs, analyze_of_error hother]
    exact Or.inl ⟨e, rfl, rfl, rfl, rfl, by simp [Ending.digest?], by simp [Ending.digest?]⟩
  | ok selected =>
    have hother : select other.system other.counter settings paths = .ok selected := hs
    rw [analyze_eq hs hpool, analyze_eq hother hpool]
    exact Or.inr ⟨_, _, rfl, rfl, rfl, rfl, rfl, rfl, rfl⟩

def keepingSink : Sink Nat := fun n _ => (.ok ⟨"/snap.json"⟩, n + 1)

def fullSink : Sink Nat := fun n _ => (.error ⟨⟨"/snap.json"⟩, .other "disk full"⟩, n + 1)

def brokenEnvironment : Environment := { sampleEnvironment with
  load := fun _ => .error .emptyContent
  readManifest := fun _ => ⟨none, [warning "no manifest"]⟩
  model := fun _ => .abandoned }

theorem verdict_of_inputs_broken :
    ∃ d d',
      ((analyze sampleEnvironment .default [⟨"readme.rs"⟩, ⟨"setup.py"⟩]).keep
        (some keepingSink.recorded) (0, [])).1.ending = .digest d ∧
      ((analyze brokenEnvironment .default [⟨"readme.rs"⟩, ⟨"setup.py"⟩]).keep
        (some fullSink.recorded) (0, [])).1.ending = .digest d' ∧
      d.files = d'.files ∧ d.content = d'.content ∧ d.totalTokens = d'.totalTokens ∧
      ((analyze sampleEnvironment .default [⟨"readme.rs"⟩, ⟨"setup.py"⟩]).keep
        (some keepingSink.recorded) (0, [])).2.2 = [d] ∧
      ((analyze brokenEnvironment .default [⟨"readme.rs"⟩, ⟨"setup.py"⟩]).keep
        (some fullSink.recorded) (0, [])).2.2 = [d'] := by
  have hpool : Settings.default.poolTooLarge = false := by decide
  rcases @verdict_of_inputs _ _ sampleEnvironment .default [⟨"readme.rs"⟩, ⟨"setup.py"⟩] hpool
    brokenEnvironment.load brokenEnvironment.readManifest brokenEnvironment.model
    brokenEnvironment.pick brokenEnvironment.now (some keepingSink) (some fullSink) 0 0
    with ⟨e, hfailed, -⟩ | hdigests
  · rw [ending_keep, analyze_eq select_sample hpool] at hfailed
    cases hfailed
  · exact hdigests

end SourceDigest.Analysis
