import Mathlib.Data.List.Pairwise
import SourceDigest.Json.Decode
import SourceDigest.Proofs.Json.Printing

namespace SourceDigest

section Entries

variable {α : Type}

def putEntries (l : List (String × α)) : List (String × α) :=
  l.foldl (fun acc e => putEntry e.1 e.2 acc) []

theorem perm_putEntry {k : String} (v : α) {l : List (String × α)} (h : k ∉ l.map Prod.fst) :
    (putEntry k v l).Perm ((k, v) :: l) := by
  induction l with
  | nil => exact List.Perm.refl _
  | cons e l ih =>
    obtain ⟨k', v'⟩ := e
    rw [List.map_cons, List.mem_cons, not_or] at h
    rw [putEntry]
    split_ifs with hlt heq
    · exact List.Perm.refl _
    · exact absurd heq h.1
    · exact ((ih h.2).cons (k', v')).trans (List.Perm.swap _ _ l)

theorem perm_foldl_putEntry {l acc : List (String × α)} (h : ((acc ++ l).map Prod.fst).Nodup) :
    (l.foldl (fun acc e => putEntry e.1 e.2 acc) acc).Perm (acc ++ l) := by
  induction l generalizing acc with
  | nil => rw [List.append_nil, List.foldl_nil]
  | cons e l ih =>
    obtain ⟨k, v⟩ := e
    have hmiddle : (acc ++ (k, v) :: l).Perm ((k, v) :: acc ++ l) := List.perm_middle
    have hnodup : (((k, v) :: acc ++ l).map Prod.fst).Nodup := (hmiddle.map _).nodup_iff.1 h
    have hfresh : k ∉ acc.map Prod.fst := by
      intro hk
      rw [List.cons_append, List.map_cons, List.nodup_cons, List.map_append] at hnodup
      exact hnodup.1 (List.mem_append_left _ hk)
    have hput := perm_putEntry v hfresh
    have hrest : ((putEntry k v acc ++ l).map Prod.fst).Nodup :=
      (((hput.append_right l).map _).nodup_iff).2 hnodup
    exact (ih hrest).trans ((hput.append_right l).trans hmiddle.symm)

theorem perm_putEntries {l : List (String × α)} (h : (l.map Prod.fst).Nodup) :
    (putEntries l).Perm l :=
  perm_foldl_putEntry h

theorem keysAscend_foldl_putEntry {l acc : List (String × α)} (h : KeysAscend acc) :
    KeysAscend (l.foldl (fun acc e => putEntry e.1 e.2 acc) acc) := by
  induction l generalizing acc with
  | nil => exact h
  | cons e l ih => exact ih (keysAscend_putEntry h)

theorem putEntries_of_keysAscend {l : List (String × α)} (h : KeysAscend l) : putEntries l = l := by
  have hnodup : (l.map Prod.fst).Nodup := List.Pairwise.imp (fun hlt => Std.ne_of_lt hlt) h
  refine List.Perm.eq_of_pairwise ?_ (List.pairwise_map.1 (keysAscend_foldl_putEntry .nil))
    (List.pairwise_map.1 h) (perm_putEntries hnodup)
  intro a b _ _ hab hba
  exact absurd (String.lt_trans hab hba) (String.lt_irrefl _)

theorem Dict.entries_ofList (l : List (String × α)) : (Dict.ofList l).entries = putEntries l := by
  have hfold : ∀ d : Dict α, (l.foldl (fun d e => d.insert e.1 e.2) d).entries
      = l.foldl (fun acc e => putEntry e.1 e.2 acc) d.entries := by
    induction l with
    | nil => exact fun d => rfl
    | cons e l ih => exact fun d => ih (d.insert e.1 e.2)
  exact hfold .empty

theorem Dict.ofList_entries (d : Dict α) : Dict.ofList d.entries = d :=
  Dict.ext ((Dict.entries_ofList d.entries).trans (putEntries_of_keysAscend d.ascend))

theorem lookupEntry_isNone_iff {k : String} {l : List (String × α)} :
    (lookupEntry k l).isNone = true ↔ k ∉ l.map Prod.fst := by
  induction l with
  | nil => simp [lookupEntry]
  | cons e l ih =>
    obtain ⟨k', v⟩ := e
    rw [lookupEntry]
    split_ifs with hk
    · simp [hk]
    · simp [ih, Ne.symm hk]

end Entries

namespace Json

section Records

variable {σ : Type}

def Field.Commute (f g : Field σ) : Prop :=
  ∀ v w s, ((f.set v s).bind (g.set w)).toOption = ((g.set w s).bind (f.set v)).toOption

instance : Std.Symm (@Field.Commute σ) := ⟨fun _ _ h v w s => (h w v s).symm⟩

theorem Field.commute_of {α β : Type} {name name' : String} {required required' : Bool}
    {item : Value → Decoding α} {item' : Value → Decoding β} {put : σ → α → σ} {put' : σ → β → σ}
    (h : ∀ s a b, put' (put s a) b = put (put' s b) a) :
    (Field.of name required item put).Commute (Field.of name' required' item' put') := by
  intro v w s
  simp only [Field.of]
  cases item v with
  | error e => cases item' w <;> rfl
  | ok a =>
    cases item' w with
    | error e => rfl
    | ok b =>
      show some (put' (put s a) b) = some (put (put' s b) a)
      rw [h]

namespace Record

variable {r : Record σ}

def setMember (r : Record σ) (k : String) (v : Value) (s : σ) : Decoding σ :=
  match r.field? k with
  | none => .ok s
  | some f => f.set v s

theorem setMembers_cons (k : String) (v : Value) (ms : List (String × Value)) (s : σ) :
    r.setMembers ((k, v) :: ms) s = (r.setMember k v s).bind (r.setMembers ms) := by
  rw [setMembers, setMember]
  cases r.field? k with
  | none => rfl
  | some f => cases hf : f.set v s <;> simp [hf, Except.bind]

theorem toOption_bind {ε α β : Type} (x : Except ε α) (f : α → Except ε β) :
    (x.bind f).toOption = x.toOption.bind fun a => (f a).toOption := by
  cases x <;> rfl

theorem setMember_commute (hr : r.fields.Pairwise Field.Commute) {k k' : String} (hk : k ≠ k')
    (v w : Value) (s : σ) :
    ((r.setMember k v s).bind (r.setMember k' w)).toOption
      = ((r.setMember k' w s).bind (r.setMember k v)).toOption := by
  unfold setMember
  cases hf : r.field? k with
  | none =>
    cases hg : r.field? k' with
    | none => rfl
    | some g => cases hw : g.set w s <;> simp [hw, Except.bind]
  | some f =>
    cases hg : r.field? k' with
    | none => cases hv : f.set v s <;> simp [hv, Except.bind]
    | some g =>
      have hfname : f.name = k := by simpa using List.find?_some hf
      have hgname : g.name = k' := by simpa using List.find?_some hg
      have hne : f ≠ g := fun h => hk (hfname ▸ hgname ▸ congrArg Field.name h)
      have hcommute : f.Commute g :=
        hr.forall (List.mem_of_find?_eq_some hf) (List.mem_of_find?_eq_some hg) hne
      exact hcommute v w s

theorem setMembers_perm (hr : r.fields.Pairwise Field.Commute) {ms ns : List (String × Value)}
    (h : ms.Perm ns) (hkeys : (ms.map Prod.fst).Nodup) (s : σ) :
    (r.setMembers ms s).toOption = (r.setMembers ns s).toOption := by
  induction h generalizing s with
  | nil => rfl
  | cons m _ ih =>
    obtain ⟨k, v⟩ := m
    rw [setMembers_cons, setMembers_cons, toOption_bind, toOption_bind]
    exact congrArg _ (funext fun t => ih (List.nodup_cons.1 hkeys).2 t)
  | swap m n ms =>
    obtain ⟨k, v⟩ := m
    obtain ⟨k', w⟩ := n
    have hne : k' ≠ k := fun h => (List.nodup_cons.1 hkeys).1 (h ▸ List.mem_cons_self)
    have hassoc : ∀ (k k' : String) (v w : Value),
        (r.setMembers ((k, v) :: (k', w) :: ms) s).toOption
          = ((r.setMember k v s).bind (r.setMember k' w)).toOption.bind
            fun t => (r.setMembers ms t).toOption := by
      intro k k' v w
      rw [setMembers_cons, toOption_bind, toOption_bind, Option.bind_assoc]
      simp only [setMembers_cons, toOption_bind]
    rw [hassoc, hassoc, setMember_commute hr hne]
  | trans h₁ h₂ ih₁ ih₂ =>
    rw [ih₁ hkeys s]
    exact ih₂ (((h₁.map _).nodup_iff).1 hkeys) s

theorem missing?_perm {ms ns : List (String × Value)} (h : ms.Perm ns) :
    r.missing? ms = r.missing? ns := by
  have hlookup : ∀ k, (lookupEntry k ms).isNone = (lookupEntry k ns).isNone := by
    intro k
    rw [Bool.eq_iff_iff, lookupEntry_isNone_iff, lookupEntry_isNone_iff, (h.map Prod.fst).mem_iff]
  simp only [missing?, hlookup]

theorem ofMembers_perm (hr : r.fields.Pairwise Field.Commute) {ms ns : List (String × Value)}
    (h : ms.Perm ns) (hkeys : (ms.map Prod.fst).Nodup) {s t : σ} (hms : r.ofMembers s ms = .ok t) :
    r.ofMembers s ns = .ok t := by
  have hset := setMembers_perm hr h hkeys s
  rw [ofMembers] at hms ⊢
  rw [← missing?_perm h]
  cases hs : r.setMembers ms s with
  | error e => simp [hs] at hms
  | ok u =>
    cases hn : r.setMembers ns s with
    | error e => simp [hs, hn, Except.toOption] at hset
    | ok w =>
      have huw : u = w := by simpa [hs, hn, Except.toOption] using hset
      rw [hs] at hms
      exact huw ▸ hms

theorem ofMembers_of_set {s a : σ} {ms : List (String × Value)} (hset : r.setMembers ms s = .ok a)
    (hgiven : ∀ f ∈ r.fields, f.required = true → f.name ∈ ms.map Prod.fst) :
    r.ofMembers s ms = .ok a := by
  have hmissing : r.missing? ms = none := by
    rw [missing?, List.find?_eq_none]
    intro f hf
    rw [Bool.and_eq_true, lookupEntry_isNone_iff]
    exact fun h => h.2 (hgiven f hf h.1)
  rw [ofMembers, hset, hmissing]

theorem setMembers_append (ms ns : List (String × Value)) (s : σ) :
    r.setMembers (ms ++ ns) s = (r.setMembers ms s).bind (r.setMembers ns) := by
  induction ms generalizing s with
  | nil => rfl
  | cons m ms ih =>
    rw [List.cons_append, setMembers_cons, setMembers_cons]
    cases r.setMember m.1 m.2 s with
    | error e => rfl
    | ok t => exact ih t

theorem decode_sorted (hr : r.fields.Pairwise Field.Commute) (hnames : (r.fields.map Field.name).Nodup)
    {start a : σ} {ms : List (String × Value)}
    (hkeys : (ms.map Prod.fst).Sublist (r.fields.map Field.name))
    (hgiven : ∀ f ∈ r.fields, f.required = true → f.name ∈ ms.map Prod.fst)
    (hset : r.setMembers (Value.sortedMembers ms) start = .ok a) :
    r.decode start (Value.object ms).sorted = .ok a := by
  have hsame : (Value.sortedMembers ms).map Prod.fst = ms.map Prod.fst := by
    rw [Value.sortedMembers_eq_map, List.map_map]
    rfl
  have hnodup : ((Value.sortedMembers ms).map Prod.fst).Nodup := hsame ▸ hnames.sublist hkeys
  exact ofMembers_perm hr (perm_putEntries hnodup).symm hnodup
    (ofMembers_of_set hset (hsame ▸ hgiven))

end Record

end Records

theorem keys_memberIfSome {α : Type} (name : String) (encode : α → Value) (o : Option α) :
    ((memberIfSome name encode o).map Prod.fst).Sublist [name] := by
  cases o with
  | none => exact List.nil_sublist _
  | some a => exact List.Sublist.refl _

open Value

theorem Value.sortedMembers_append (ms ns : List (String × Value)) :
    sortedMembers (ms ++ ns) = sortedMembers ms ++ sortedMembers ns := by
  simp only [sortedMembers_eq_map, List.map_append]

theorem Value.Printable.mono {depth depth' : Nat} {v : Value} (h : Printable depth v)
    (hle : depth ≤ depth') : Printable depth' v := by
  induction h generalizing depth' with
  | null => exact .null
  | bool b => exact .bool b
  | number limit => exact .number limit
  | string s => exact .string s
  | array each ih =>
    obtain ⟨e, rfl⟩ := Nat.exists_eq_add_of_le' (Nat.le_trans (Nat.le_add_left 1 _) hle)
    exact .array fun v hv => ih v hv (Nat.le_of_succ_le_succ hle)
  | object each ih =>
    obtain ⟨e, rfl⟩ := Nat.exists_eq_add_of_le' (Nat.le_trans (Nat.le_add_left 1 _) hle)
    exact .object fun m hm => ih m hm (Nat.le_of_succ_le_succ hle)

structure Faithful {α : Type} (depth : Nat) (encode : α → Value) (item : Value → Decoding α) :
    Prop where
  printable (a : α) : (encode a).Printable depth
  decodes (a : α) : item (encode a).sorted = .ok a

namespace Faithful

variable {α : Type} {depth : Nat} {encode : α → Value} {item : Value → Decoding α}

theorem text : Faithful 0 .string decodeText := ⟨fun s => .string s, fun _ => rfl⟩

theorem uint32 (wanted : String) :
    Faithful 0 (fun n : UInt32 => .ofNat n.toNat) (decodeUInt32 wanted) where
  printable n := .number (Nat.le_trans (Nat.le_of_lt n.toNat_lt) (by decide))
  decodes n := by
    have h : n.toNat ≤ UInt32.size - 1 := Nat.le_sub_one_of_lt n.toNat_lt
    show ((Value.ofNat n.toNat).decodeNat (UInt32.size - 1) wanted).map UInt32.ofNat = _
    rw [Value.ofNat, decodeNat, if_pos h, Except.map, UInt32.ofNat_toNat]

theorem uint64 (wanted : String) :
    Faithful 0 (fun n : UInt64 => .ofNat n.toNat) (decodeUInt64 wanted) where
  printable n := .number (Nat.le_sub_one_of_lt n.toNat_lt)
  decodes n := by
    have h : n.toNat ≤ UInt64.size - 1 := Nat.le_sub_one_of_lt n.toNat_lt
    show ((Value.ofNat n.toNat).decodeNat (UInt64.size - 1) wanted).map UInt64.ofNat = _
    rw [Value.ofNat, decodeNat, if_pos h, Except.map, UInt64.ofNat_toNat]

theorem list (h : Faithful depth encode item) :
    Faithful (depth + 1) (fun l : List α => .array (l.map encode)) (decodeList item) where
  printable l := by
    apply Printable.array
    intro v hv
    obtain ⟨a, -, rfl⟩ := List.mem_map.1 hv
    exact h.printable a
  decodes l := by
    rw [sorted, sortedItems_eq_map, List.map_map, decodeList]
    exact decodeItems_map h.decodes l

theorem texts : Faithful 1 ofTexts decodeTexts := list text

theorem decodeEntries_map (h : Faithful depth encode item) (l : List (String × α)) :
    decodeEntries item (l.map fun e => (e.1, (encode e.2).sorted)) = .ok l := by
  induction l with
  | nil => rfl
  | cons e l ih => simp [decodeEntries, h.decodes, ih]

theorem dict (h : Faithful depth encode item) :
    Faithful (depth + 1) (fun d : Dict α => .object (d.entries.map fun e => (e.1, encode e.2)))
      (decodeDict item) where
  printable d := by
    apply Printable.object
    intro m hm
    obtain ⟨e, -, rfl⟩ := List.mem_map.1 hm
    exact h.printable e.2
  decodes d := by
    have hascend : KeysAscend (d.entries.map fun e => (e.1, (encode e.2).sorted)) := by
      rw [KeysAscend, List.map_map]
      exact d.ascend
    have hsorted : ofMembers (d.entries.map fun e => (e.1, (encode e.2).sorted))
        = .object (d.entries.map fun e => (e.1, (encode e.2).sorted)) :=
      congrArg Value.object (putEntries_of_keysAscend hascend)
    rw [sorted, sortedMembers_eq_map, List.map_map]
    simp only [Function.comp_def]
    rw [hsorted, decodeDict, h.decodeEntries_map, Except.map, Dict.ofList_entries]

theorem decodeOption (h : Faithful depth encode item) (hnull : (item .null).toOption = none)
    (a : α) : Value.decodeOption item (encode a).sorted = .ok (some a) := by
  have ha := h.decodes a
  unfold Value.decodeOption
  split
  case h_1 heq =>
    rw [heq] at ha
    simp [ha, Except.toOption] at hnull
  case h_2 => rw [ha, Except.map]

theorem printable_memberIfSome (h : Faithful depth encode item) (name : String) (o : Option α) :
    ∀ m ∈ memberIfSome name encode o, m.2.Printable depth := by
  cases o with
  | none => simp [memberIfSome]
  | some a => simp [memberIfSome, h.printable a]

theorem setMembers_memberIfSome {σ : Type} {r : Record σ} (h : Faithful depth encode item)
    (hnull : (item .null).toOption = none) {name : String} {required : Bool}
    {put : σ → Option α → σ}
    (hfield : r.field? name = some (.of name required (Value.decodeOption item) put)) {s t : σ}
    (hnone : put s none = s) {o : Option α} (hput : put s o = t) :
    r.setMembers (sortedMembers (memberIfSome name encode o)) s = .ok t := by
  subst hput
  cases o with
  | none =>
    rw [hnone]
    rfl
  | some a =>
    show r.setMembers [(name, (encode a).sorted)] s = .ok (put s (some a))
    simp only [Record.setMembers, hfield, Field.of, h.decodeOption hnull a]
    rfl

end Faithful

end Json

end SourceDigest
