import SourceDigest.Proofs.Analysis.Insights
import SourceDigest.Proofs.Configuration.Limit

namespace SourceDigest.Analysis

open SourceDigest.Configuration (concurrencyVariable limitText)

def Settings.FitsPool (settings : Settings) : Prop :=
  ∀ n, settings.extractionLimit = some n → n.toNat ≤ Pool.maxPlaces

theorem Settings.poolTooLarge_eq_false_iff {settings : Settings} :
    settings.poolTooLarge = false ↔ settings.FitsPool := by
  unfold poolTooLarge FitsPool
  cases settings.extractionLimit with
  | none => simp
  | some n => simp

theorem Settings.fitsPool_some_iff (settings : Settings) (n : UInt64) :
    ({ settings with maxConcurrent := some n } : Settings).FitsPool ↔ n.toNat ≤ Pool.maxPlaces := by
  unfold FitsPool extractionLimit
  by_cases hn : 0 < n
  · simp [Option.filter, hn]
  · have hzero : n.toNat = 0 := by
      have hle := UInt64.le_iff_toNat_le.1 (UInt64.not_lt.1 hn)
      exact Nat.le_zero.1 hle
    simp [Option.filter, hn, hzero]

variable {env : Environment} {settings : Settings} {paths : List Path} {selected : Logged Selection}

def GivesDigest (env : Environment) (settings : Settings) (paths : List Path) : Prop :=
  ∃ d, (analyze env settings paths).ending = .digest d

theorem analyze_of_not_fitsPool
    (hs : select env.system env.counter settings paths = .ok selected) (h : ¬ settings.FitsPool) :
    (analyze env settings paths).ending = .noPool ∧ (analyze env settings paths).asked = [] ∧
      requests env settings paths = [] := by
  have hlarge : settings.poolTooLarge = true := by
    rw [← Settings.poolTooLarge_eq_false_iff, Bool.not_eq_false] at h
    exact h
  simp only [analyze, requests, hs, examine, hlarge, if_true, and_self]

theorem givesDigest_iff (hs : select env.system env.counter settings paths = .ok selected) :
    GivesDigest env settings paths ↔ settings.FitsPool := by
  constructor
  · rintro ⟨d, hd⟩
    obtain ⟨-, -, hp⟩ := ending_eq_digest hd
    exact Settings.poolTooLarge_eq_false_iff.1 hp
  · intro h
    exact ⟨_, congrArg Run.ending (analyze_eq hs (Settings.poolTooLarge_eq_false_iff.2 h))⟩

theorem givesDigest_some_iff (hs : select env.system env.counter settings paths = .ok selected)
    (n : UInt64) :
    GivesDigest env { settings with maxConcurrent := some n } paths ↔ n.toNat ≤ Pool.maxPlaces := by
  -- the limit has no part in what is selected
  have hlimited : select env.system env.counter { settings with maxConcurrent := some n } paths =
      .ok selected := hs
  exact (givesDigest_iff hlimited).trans (settings.fitsPool_some_iff n)

theorem ending_of_limit (hs : select env.system env.counter settings paths = .ok selected) :
    (GivesDigest env settings paths ↔ settings.FitsPool) ∧
    (¬ settings.FitsPool →
      (analyze env settings paths).ending = .noPool ∧ (analyze env settings paths).asked = [] ∧
        requests env settings paths = []) ∧
    (∀ file values c root, Configuration.overlay file values = .ok c → c.settings root = settings →
      (∃ limit, Configuration.number? values concurrencyVariable = .ok limit ∧
        settings.maxConcurrent = limit.or file.analysis.maxConcurrent) ∧
      ∀ n : UInt64, ∃ c', file.overlay (values.set concurrencyVariable (toString n.toNat)) = .ok c' ∧
        (GivesDigest env (c'.settings root) paths ↔ n.toNat ≤ Pool.maxPlaces)) ∧
    ∀ root, Configuration.default.settings root = settings →
      ∀ n : UInt64, n.toNat ≤ Toml.maxInteger →
        ∃ c, Configuration.parse? (limitText n) = some c ∧
          (GivesDigest env (c.settings root) paths ↔ n.toNat ≤ Pool.maxPlaces) := by
  refine ⟨givesDigest_iff hs, analyze_of_not_fitsPool hs, ?_, ?_⟩
  · rintro file values c root hc rfl
    refine ⟨Configuration.maxConcurrent_of_overlay hc, fun n => ?_⟩
    refine ⟨c.limited n, Configuration.overlay_set hc n, ?_⟩
    rw [Configuration.settings_limited]
    exact givesDigest_some_iff hs n
  · rintro root rfl n hn
    refine ⟨Configuration.default.limited n, Configuration.parse?_limitText hn, ?_⟩
    rw [Configuration.settings_limited]
    exact givesDigest_some_iff hs n

theorem ending_of_limit_widest :
    GivesDigest sampleEnvironment .default [⟨"readme.rs"⟩, ⟨"setup.py"⟩] ∧
    ∃ c, Configuration.parse? "[analysis]\nmax_concurrent_extractions = 2305843009213693951\n" =
        some c ∧
      GivesDigest sampleEnvironment (c.settings none) [⟨"readme.rs"⟩, ⟨"setup.py"⟩] := by
  obtain ⟨hdigest, -, -, hfile⟩ := ending_of_limit select_sample
  have htext : limitText 2305843009213693951 =
      "[analysis]\nmax_concurrent_extractions = 2305843009213693951\n" := by rfl
  obtain ⟨c, hc, hwidest⟩ := hfile none rfl 2305843009213693951 (by decide)
  rw [htext] at hc
  have hfits : Settings.default.FitsPool := Settings.poolTooLarge_eq_false_iff.1 rfl
  exact ⟨hdigest.2 hfits, c, hc, hwidest.2 (by decide)⟩

theorem no_digest_beyond_maxPlaces :
    ∃ c, Configuration.overlay .default
        (Configuration.Variables.set (fun _ => none) concurrencyVariable "2305843009213693952") =
          .ok c ∧
      Configuration.parse? "[analysis]\nmax_concurrent_extractions = 2305843009213693952\n" =
        some c ∧
      (c.settings none).extractionLimit = some 2305843009213693952 ∧
      Pool.maxPlaces < (2305843009213693952 : UInt64).toNat ∧
      (∃ selected, select sampleEnvironment.system sampleEnvironment.counter (c.settings none)
        [⟨"readme.rs"⟩, ⟨"setup.py"⟩] = .ok selected) ∧
      (analyze sampleEnvironment (c.settings none) [⟨"readme.rs"⟩, ⟨"setup.py"⟩]).ending =
        .noPool ∧
      ¬ GivesDigest sampleEnvironment (c.settings none) [⟨"readme.rs"⟩, ⟨"setup.py"⟩] := by
  have hlimited : select sampleEnvironment.system sampleEnvironment.counter
      ((Configuration.default.limited 2305843009213693952).settings none)
      [⟨"readme.rs"⟩, ⟨"setup.py"⟩] = .ok _ := select_sample
  have htext : limitText 2305843009213693952 =
      "[analysis]\nmax_concurrent_extractions = 2305843009213693952\n" := by rfl
  have hfits : ¬ ((Configuration.default.limited 2305843009213693952).settings none).FitsPool :=
    fun h => absurd
      ((Settings.fitsPool_some_iff (Configuration.default.settings none) _).1 h) (by decide)
  refine ⟨Configuration.default.limited 2305843009213693952, ?_, ?_, ?_, ?_, ⟨_, hlimited⟩, ?_, ?_⟩
  · exact Configuration.overlay_set (Configuration.overlay_of_none _) 2305843009213693952
  · rw [← htext]
    exact Configuration.parse?_limitText (by decide)
  · rfl
  · decide
  · exact (analyze_of_not_fitsPool hlimited hfits).1
  · exact fun h => hfits ((givesDigest_iff hlimited).1 h)

end SourceDigest.Analysis
