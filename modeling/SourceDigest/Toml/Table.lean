import SourceDigest.Toml.Value

namespace SourceDigest.Toml

def Form.admits (dots : Bool) : Form → Bool
  | .inline => false
  | .header => !dots
  | .path => true
  | .dotted => true

def edit (dots : Bool) (change : Form → Entries → Option Entries) :
    List String → Form → Entries → Option Entries
  | [], form, entries => change form entries
  | k :: ks, _, entries =>
    match lookupEntry k entries with
    | none =>
      let form : Form := if dots then .dotted else .path
      (edit dots change ks form []).map fun below => putEntry k (.table form below) entries
    | some (.table form below) =>
      if form.admits dots then
        (edit dots change ks form below).map fun below => putEntry k (.table form below) entries
      else none
    | some (.tables rows) =>
      match rows.getLast? with
      | none => none
      | some below =>
        (edit dots change ks .header below).map fun below =>
          putEntry k (.tables (rows.dropLast ++ [below])) entries
    | some _ => none

def insertNew (k : String) (v : Value) (entries : Entries) : Option Entries :=
  match lookupEntry k entries with
  | none => some (putEntry k v entries)
  | some _ => none

def assign (path : List String) (k : String) (v : Value) : Form → Entries → Option Entries :=
  edit true (fun form entries =>
    if path.isEmpty || form == .dotted then insertNew k v entries else none) path

def assignUnder (header path : List String) (k : String) (v : Value) (root : Entries) :
    Option Entries :=
  edit false (assign path k v) header .header root

def openTable (path : List String) (k : String) (root : Entries) : Option Entries :=
  edit false (fun _ entries =>
    match lookupEntry k entries with
    | none => some (putEntry k (.table .header []) entries)
    | some (.table .path below) => some (putEntry k (.table .header below) entries)
    | some _ => none) path .header root

def openRow (path : List String) (k : String) (root : Entries) : Option Entries :=
  edit false (fun _ entries =>
    match lookupEntry k entries with
    | none => some (putEntry k (.tables [[]]) entries)
    | some (.tables rows) => some (putEntry k (.tables (rows ++ [[]])) entries)
    | some _ => none) path .header root

theorem insertNew_eq_none_iff {k : String} {v : Value} {entries : Entries} :
    insertNew k v entries = none ↔ (lookupEntry k entries).isSome = true := by
  unfold insertNew
  cases lookupEntry k entries <;> simp

end SourceDigest.Toml
