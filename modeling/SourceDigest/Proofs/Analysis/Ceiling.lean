import SourceDigest.Proofs.Analysis.Preference

namespace SourceDigest

namespace Scan

variable {a b : List Piece}

theorem files_prefix_of_prefix (h : a <+: b) :
    (Collection.ofPieces a).files <+: (Collection.ofPieces b).files :=
  h.map _

theorem exists_content_of_prefix (h : a <+: b) :
    ∃ rest, (Collection.ofPieces b).content = (Collection.ofPieces a).content ++ rest := by
  obtain ⟨more, rfl⟩ := h
  refine ⟨String.join (more.map Piece.block), ?_⟩
  simp only [Collection.ofPieces, List.map_append, String.join_append]

end Scan

namespace Analysis

open Files (System)

variable {system : System} {counter : TokenCounter} {env : Environment} {settings : Settings}
  {paths : List Path} {low high : UInt64} {s : Selection}

def Selection.under (system : System) (counter : TokenCounter) (ceiling : UInt64) (s : Selection) :
    Selection :=
  { s with collection := .ofPieces (Scan.taken system counter s.root ceiling s.ordered) }

theorem Selects.under_of_le {found : Logged (List Path)} (hle : low ≤ high)
    (h : Selects system counter { settings with tokenCeiling := some low } paths found s) :
    Selects system counter { settings with tokenCeiling := some high } paths found
      (s.under system counter high) where
  rooted := h.rooted
  scanned := h.scanned
  ordered := h.ordered
  collected := rfl
  nonempty hempty := by
    have hprefix := Scan.taken_prefix_of_le system counter hle s.root s.ordered
    rw [show Scan.taken system counter s.root high s.ordered = [] from hempty] at hprefix
    exact h.nonempty (List.prefix_nil.1 hprefix)

theorem get?_insights_digestFor (h : s.Readable env.system) (p : String) (i : Insights) :
    (digestFor env settings s).insights.get? p = some i ↔
      (∃ f ∈ s.collection.files, f.path = p) ∧
        fateAt env settings.parseTimeout s.root p = .answered (.insights i) :=
  get?_insights_askAll h settings.parseTimeout settings.extractionLimit p i

theorem analyze_mono_ceiling (hle : low ≤ high) {d : Digest}
    (h : (analyze env { settings with tokenCeiling := some low } paths).ending = .digest d)
    (pick : Nat → Nat) (now : UInt64) :
    ∃ e, (analyze { env with pick := pick, now := now }
        { settings with tokenCeiling := some high } paths).ending = .digest e ∧
      d.files <+: e.files ∧ (∃ rest, e.content = d.content ++ rest) ∧
      (∀ p i, d.insights.get? p = some i → e.insights.get? p = some i) ∧
      e.techStack = d.techStack ∧ e.manifest = d.manifest := by
  obtain ⟨found, s, hs, hp, rfl⟩ := ending_eq_digest_iff.1 h
  have ht := hs.under_of_le hle
  have hprefix : Scan.taken env.system env.counter s.root low s.ordered <+:
      Scan.taken env.system env.counter s.root high s.ordered :=
    Scan.taken_prefix_of_le env.system env.counter hle s.root s.ordered
  have hcollected : s.collection = .ofPieces
      (Scan.taken env.system env.counter s.root low s.ordered) := hs.collected
  have hfiles : s.collection.files <+: (s.under env.system env.counter high).collection.files := by
    rw [hcollected]
    exact Scan.files_prefix_of_prefix hprefix
  refine ⟨_, ending_eq_digest_iff.2 ⟨found, _, ht, hp, rfl⟩, hfiles, ?_, ?_, rfl, rfl⟩
  · obtain ⟨rest, hrest⟩ := Scan.exists_content_of_prefix hprefix
    refine ⟨rest, hrest.trans ?_⟩
    rw [← hcollected]
    rfl
  · intro p i hi
    obtain ⟨⟨f, hf, hpath⟩, hfate⟩ := (get?_insights_digestFor hs.readable p i).1 hi
    let later : Environment := { env with pick := pick, now := now }
    -- A file's fate knows neither the order of the answers nor the time.
    have hfate' : fateAt later settings.parseTimeout s.root p = .answered (.insights i) := hfate
    exact (@get?_insights_digestFor later { settings with tokenCeiling := some high } _
      ht.readable p i).2 ⟨⟨f, hfiles.subset hf, hpath⟩, hfate'⟩

theorem analyze_mono_ceiling_tight :
    ∃ d e, (analyze sampleEnvironment { Settings.default with tokenCeiling := some 14 }
        [⟨"readme.rs"⟩, ⟨"setup.py"⟩]).ending = .digest d ∧
      (analyze { sampleEnvironment with pick := fun n => n + 1, now := 1 }
        { Settings.default with tokenCeiling := some 27 }
        [⟨"readme.rs"⟩, ⟨"setup.py"⟩]).ending = .digest e ∧
      d.files <+: e.files ∧ ∃ rest, e.content = d.content ++ rest := by
  have hle : (14 : UInt64) ≤ 27 := by decide
  obtain ⟨e, he, hfiles, hcontent, -⟩ := analyze_mono_ceiling hle ending_tight (fun n => n + 1) 1
  exact ⟨_, e, ending_tight, he, hfiles, hcontent⟩

end Analysis

end SourceDigest
