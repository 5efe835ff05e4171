import SourceDigest.Configuration
import SourceDigest.Files.Disk
import SourceDigest.Toml.Reader

namespace SourceDigest.Configuration

open Toml (Value Entries)
open Decimal (Binary binary32)
open Files (Disk Cause)

def textOf? : Value → Option String
  | .string s => some s
  | _ => none

def natOf? (limit : Nat) : Value → Option Nat
  | .integer n => if 0 ≤ n && n.toNat ≤ limit then some n.toNat else none
  | _ => none

def uint64Of? (v : Value) : Option UInt64 := (natOf? maxUInt64 v).map UInt64.ofNat

def uint32Of? (v : Value) : Option UInt32 := (natOf? (UInt32.size - 1) v).map UInt32.ofNat

def fractionOf? : Value → Option Binary
  | .float x => some (x.convert binary32)
  | .integer n => some (binary32.round (n < 0) n.natAbs 1)
  | _ => none

def booleanOf? : Value → Option Bool
  | .boolean b => some b
  | _ => none

def textsOf? : Value → Option (List String)
  | .array vs => vs.mapM textOf?
  | _ => none

structure Setting (σ : Type) where
  name : String
  set : Value → σ → Option σ

def Setting.of {σ α : Type} (name : String) (read : Value → Option α) (put : σ → α → σ) :
    Setting σ :=
  ⟨name, fun v s => (read v).map (put s)⟩

variable {σ : Type}

def setEntries (settings : List (Setting σ)) : Entries → σ → Option σ
  | [], s => some s
  | (k, v) :: entries, s =>
    match settings.find? fun x => x.name == k with
    | none => none
    | some x => (x.set v s).bind (setEntries settings entries)

def setItems : List (Setting σ) → List Value → σ → Option σ
  | x :: xs, v :: vs, s => (x.set v s).bind (setItems xs vs)
  | _, _, s => some s

def readSection (settings : List (Setting σ)) (start : σ) : Value → Option σ
  | .table _ entries => setEntries settings entries start
  | .array items => setItems settings items start
  | .tables rows => setItems settings (rows.map (.table .header ·)) start
  | _ => none

def modelSettings : List (Setting ModelSection) := [
  .of "base_url" textOf? fun s v => { s with baseUrl := v },
  .of "model" textOf? fun s v => { s with model := some v },
  .of "api_key_env" textOf? fun s v => { s with keyVariable := v },
  .of "timeout_secs" uint64Of? fun s v => { s with timeoutSeconds := v },
  .of "temperature" fractionOf? fun s v => { s with temperature := some v },
  .of "max_tokens" uint32Of? fun s v => { s with maxTokens := some v },
  .of "context_window" uint64Of? fun s v => { s with contextWindow := v }]

def analysisSettings : List (Setting AnalysisSection) := [
  .of "token_ceiling" uint64Of? fun s v => { s with tokenCeiling := some v },
  .of "prompt_reserve_tokens" uint64Of? fun s v => { s with promptReserve := v },
  .of "max_concurrent_extractions" uint64Of? fun s v => { s with maxConcurrent := some v },
  .of "write_snapshot" booleanOf? fun s v => { s with keepSnapshot := v },
  .of "snapshot_dir" textOf? fun s v => { s with snapshotDirectory := some ⟨v⟩ },
  .of "parse_timeout_ms" uint64Of? fun s v => { s with parseTimeout := some v },
  .of "max_file_size" uint64Of? fun s v => { s with maxFileSize := v },
  .of "skip_dirs" textsOf? fun s v => { s with skippedDirectories := v }]

def sections : List (Setting Configuration) := [
  .of "llm" (readSection modelSettings .default) fun c s => { c with model := s },
  .of "analysis" (readSection analysisSettings .default) fun c s => { c with analysis := s }]

def parse? (text : String) : Option Configuration :=
  (Toml.parse text).bind fun entries => setEntries sections entries .default

def readingReason : Cause → String
  | .notText _ => "stream did not contain valid UTF-8"
  | c => c.message

def readFrom (disk : Disk) (path : Path) : Except Error Configuration :=
  match disk.readText path with
  | .error c => .error (.unreadable path (readingReason c))
  | .ok text =>
    match parse? text with
    | none => .error (.invalid path)
    | some c => .ok c

def load (disk : Disk) (given : Option Path) (root : Path) : Except Error Configuration :=
  match given with
  | some path => readFrom disk path
  | none =>
    let path := root.join fileName
    if disk.isFile path then readFrom disk path else .ok .default

theorem parse?_empty : parse? "" = some .default := by rfl

end SourceDigest.Configuration
