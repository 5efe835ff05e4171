import SourceDigest.Configuration.Reader
import SourceDigest.Proofs.Decimal.Numeral
import SourceDigest.Proofs.Text.Trimming
import SourceDigest.Proofs.Toml.Setting

namespace SourceDigest.Configuration

def Variables.set (values : Variables) (name value : String) : Variables := fun v =>
  if v = name then some value else values v

@[simp] theorem Variables.set_self (values : Variables) (name value : String) :
    values.set name value name = some value := if_pos rfl

theorem Variables.set_of_ne {values : Variables} {name value v : String} (h : v ≠ name) :
    values.set name value v = values v := if_neg h

def limited (c : Configuration) (n : UInt64) : Configuration :=
  { c with analysis := { c.analysis with maxConcurrent := some n } }

@[simp] theorem settings_limited (c : Configuration) (n : UInt64) (root : Option Path) :
    (c.limited n).settings root = { c.settings root with maxConcurrent := some n } := rfl

variable {file c : Configuration} {values : Variables} {name : String}

theorem number?_toString (n : UInt64) (h : values name = some (toString n.toNat)) :
    number? values name = .ok (some n) := by
  have hle : n.toNat ≤ maxUInt64 := Nat.le_sub_one_of_lt n.toNat_lt_size
  have htrim : Text.trimChars (Nat.toDigits 10 n.toNat) = Nat.toDigits 10 n.toNat :=
    Text.trimChars_of_solid fun c hc => Text.isBlank_eq_false_of_isAlphanum (by
      simp [Char.isAlphanum, Decimal.isDigit_toDigits _ c hc])
  have hread : Decimal.readUnsigned maxUInt64 (Text.trimChars (toString n.toNat).toList) =
      .ok n.toNat := by
    rw [Nat.toString_eq_ofList_toDigits, String.toList_ofList, htrim]
    exact Decimal.readUnsigned_toDigits hle
  simp only [number?, h, hread, UInt64.ofNat_toNat]

theorem number?_set_of_ne {v : String} (h : v ≠ name) (value : String) :
    number? (values.set name value) v = number? values v := by
  simp only [number?, Variables.set_of_ne h]

theorem overlay_eq_ok_iff :
    file.overlay values = .ok c ↔
      ∃ window ceiling limit, number? values windowVariable = .ok window ∧
        number? values ceilingVariable = .ok ceiling ∧
        number? values concurrencyVariable = .ok limit ∧
        c = {
          model := { file.model with
            baseUrl := (values baseUrlVariable).getD file.model.baseUrl
            model := (values modelVariable).or file.model.model
            contextWindow := window.getD file.model.contextWindow }
          analysis := { file.analysis with
            tokenCeiling := ceiling.or file.analysis.tokenCeiling
            maxConcurrent := limit.or file.analysis.maxConcurrent } } := by
  constructor
  · intro h
    unfold overlay at h
    split at h
    · cases h
    · rename_i window hwindow
      split at h
      · cases h
      · rename_i ceiling hceiling
        split at h
        · cases h
        · rename_i limit hlimit
          exact ⟨window, ceiling, limit, hwindow, hceiling, hlimit, (Except.ok.inj h).symm⟩
  · rintro ⟨window, ceiling, limit, hwindow, hceiling, hlimit, rfl⟩
    simp only [overlay, hwindow, hceiling, hlimit]

theorem maxConcurrent_of_overlay (h : file.overlay values = .ok c) :
    ∃ limit, number? values concurrencyVariable = .ok limit ∧
      c.analysis.maxConcurrent = limit.or file.analysis.maxConcurrent := by
  obtain ⟨_, _, limit, -, -, hlimit, rfl⟩ := overlay_eq_ok_iff.1 h
  exact ⟨limit, hlimit, rfl⟩

theorem overlay_set (h : file.overlay values = .ok c) (n : UInt64) :
    file.overlay (values.set concurrencyVariable (toString n.toNat)) = .ok (c.limited n) := by
  obtain ⟨window, ceiling, _, hwindow, hceiling, -, rfl⟩ := overlay_eq_ok_iff.1 h
  refine overlay_eq_ok_iff.2 ⟨window, ceiling, some n, ?_, ?_, ?_, ?_⟩
  · rw [number?_set_of_ne (by decide), hwindow]
  · rw [number?_set_of_ne (by decide), hceiling]
  · exact number?_toString n (Variables.set_self _ _ _)
  · rw [Variables.set_of_ne (by decide), Variables.set_of_ne (by decide)]
    rfl

theorem uint64Of?_integer (n : UInt64) : uint64Of? (.integer n.toNat) = some n := by
  have hle : n.toNat ≤ maxUInt64 := Nat.le_sub_one_of_lt n.toNat_lt_size
  simp [uint64Of?, natOf?, hle]

def limitText (n : UInt64) : String :=
  Toml.settingText "analysis" "max_concurrent_extractions" n.toNat

theorem parse?_limitText {n : UInt64} (h : n.toNat ≤ Toml.maxInteger) :
    parse? (limitText n) = some (default.limited n) := by
  have htable : Toml.IsBareKey "analysis" := ⟨rfl, rfl⟩
  have hkey : Toml.IsBareKey "max_concurrent_extractions" := ⟨rfl, rfl⟩
  have htext := Toml.parse_settingText htable hkey h
  simp only [parse?, limitText, htext, Option.bind_some]
  simp [setEntries, sections, Setting.of, readSection, analysisSettings, uint64Of?_integer]
  rfl

end SourceDigest.Configuration
