namespace SourceDigest

variable {κ α β : Type} [DecidableEq κ]

def putEntry [LT κ] [DecidableLT κ] (k : κ) (v : α) : List (κ × α) → List (κ × α)
  | [] => [(k, v)]
  | (k', v') :: rest =>
    if k < k' then (k, v) :: (k', v') :: rest
    else if k = k' then (k, v) :: rest
    else (k', v') :: putEntry k v rest

theorem mem_keys_putEntry [LT κ] [DecidableLT κ] {k x : κ} {v : α} {l : List (κ × α)} :
    x ∈ (putEntry k v l).map Prod.fst ↔ x = k ∨ x ∈ l.map Prod.fst := by
  induction l with
  | nil => simp [putEntry]
  | cons e l ih =>
    obtain ⟨k', v'⟩ := e
    simp only [putEntry]
    split
    · simp
    · split
      · rename_i h
        subst h
        simp
      · simp only [List.map_cons, List.mem_cons, ih]
        exact or_left_comm

def KeysAscend (l : List (String × α)) : Prop := (l.map Prod.fst).Pairwise (· < ·)

theorem keysAscend_putEntry {k : String} {v : α} {l : List (String × α)} (h : KeysAscend l) :
    KeysAscend (putEntry k v l) := by
  induction l with
  | nil => simp [putEntry, KeysAscend]
  | cons e l ih =>
    obtain ⟨k', v'⟩ := e
    have hl : KeysAscend l := (List.pairwise_cons.1 h).2
    have hk' : ∀ x ∈ l.map Prod.fst, k' < x := (List.pairwise_cons.1 h).1
    simp only [putEntry]
    split
    · rename_i hlt
      refine List.pairwise_cons.2 ⟨?_, h⟩
      intro x hx
      rcases List.mem_cons.1 hx with rfl | hx
      · exact hlt
      · exact String.lt_trans hlt (hk' x hx)
    · split
      · rename_i heq
        subst heq
        exact List.pairwise_cons.2 ⟨hk', hl⟩
      · rename_i hlt hne
        refine List.pairwise_cons.2 ⟨?_, ih hl⟩
        intro x hx
        rcases mem_keys_putEntry.1 hx with rfl | hx
        · exact Std.not_le.1 fun hle => hne (Std.le_antisymm hle (Std.not_lt.1 hlt))
        · exact hk' x hx

def lookupEntry (k : κ) : List (κ × α) → Option α
  | [] => none
  | (k', v) :: rest => if k' = k then some v else lookupEntry k rest

theorem lookupEntry_putEntry [LT κ] [DecidableLT κ] (k x : κ) (v : α) (l : List (κ × α)) :
    lookupEntry x (putEntry k v l) = if k = x then some v else lookupEntry x l := by
  induction l with
  | nil => simp [putEntry, lookupEntry]
  | cons e l ih =>
    obtain ⟨k', v'⟩ := e
    simp only [putEntry]
    split
    · simp [lookupEntry]
    · split
      · rename_i h
        subst h
        by_cases hx : k = x <;> simp [lookupEntry, hx]
      · rename_i hne
        simp only [lookupEntry, ih]
        by_cases hk : k' = x
        · have : ¬ k = x := fun hkx => hne (hkx.trans hk.symm)
          simp [hk, this]
        · simp [hk]

theorem mem_of_lookupEntry {k : κ} {v : α} {l : List (κ × α)}
    (h : lookupEntry k l = some v) : (k, v) ∈ l := by
  induction l with
  | nil => cases h
  | cons e l ih =>
    obtain ⟨k', v'⟩ := e
    simp only [lookupEntry] at h
    split at h
    · rename_i hk
      cases h
      exact hk ▸ List.mem_cons_self
    · exact List.mem_cons_of_mem _ (ih h)

theorem exists_lookupEntry_of_mem {k : κ} {v : α} {l : List (κ × α)} (h : (k, v) ∈ l) :
    ∃ w, lookupEntry k l = some w := by
  induction l with
  | nil => cases h
  | cons e l ih =>
    obtain ⟨k', v'⟩ := e
    simp only [lookupEntry]
    split
    · exact ⟨v', rfl⟩
    · rename_i hk
      rcases List.mem_cons.1 h with he | h
      · cases he
        exact absurd rfl hk
      · exact ih h

theorem lookupEntry_of_mem {k : String} {v : α} {l : List (String × α)} (hl : KeysAscend l)
    (h : (k, v) ∈ l) : lookupEntry k l = some v := by
  induction l with
  | nil => cases h
  | cons e l ih =>
    obtain ⟨k', v'⟩ := e
    simp only [lookupEntry]
    rcases List.mem_cons.1 h with he | h
    · cases he
      rw [if_pos rfl]
    · have hlt : k' < k := (List.pairwise_cons.1 hl).1 k (List.mem_map_of_mem h)
      rw [if_neg fun he : k' = k => String.lt_irrefl k (he ▸ hlt)]
      exact ih (List.pairwise_cons.1 hl).2 h

structure Dict (α : Type) where
  entries : List (String × α)
  ascend : KeysAscend entries

namespace Dict

def empty : Dict α := ⟨[], List.Pairwise.nil⟩

instance : EmptyCollection (Dict α) := ⟨empty⟩

instance : Inhabited (Dict α) := ⟨empty⟩

def insert (d : Dict α) (k : String) (v : α) : Dict α :=
  ⟨putEntry k v d.entries, keysAscend_putEntry d.ascend⟩

def get? (d : Dict α) (k : String) : Option α := lookupEntry k d.entries

def contains (d : Dict α) (k : String) : Bool := (d.get? k).isSome

def keys (d : Dict α) : List String := d.entries.map Prod.fst

def isEmpty (d : Dict α) : Bool := d.entries.isEmpty

def ofList (l : List (String × α)) : Dict α := l.foldl (fun d e => d.insert e.1 e.2) empty

theorem get?_empty (k : String) : (empty : Dict α).get? k = none := rfl

theorem get?_insert (d : Dict α) (k x : String) (v : α) :
    (d.insert k v).get? x = if k = x then some v else d.get? x :=
  lookupEntry_putEntry k x v d.entries

theorem mem_keys_insert {d : Dict α} {k x : String} {v : α} :
    x ∈ (d.insert k v).keys ↔ x = k ∨ x ∈ d.keys :=
  mem_keys_putEntry

theorem keys_nodup (d : Dict α) : d.keys.Nodup :=
  d.ascend.imp fun h he => by subst he; exact String.lt_irrefl _ h

theorem mem_entries_iff {d : Dict α} {k : String} {v : α} :
    (k, v) ∈ d.entries ↔ d.get? k = some v :=
  ⟨lookupEntry_of_mem d.ascend, mem_of_lookupEntry⟩

theorem ext {a b : Dict α} (h : a.entries = b.entries) : a = b := by
  cases a
  cases b
  cases h
  rfl

instance [DecidableEq α] : DecidableEq (Dict α) := fun a b =>
  if h : a.entries = b.entries then .isTrue (ext h) else .isFalse fun e => h (e ▸ rfl)

end Dict

def insertText (s : String) (l : List String) : List String :=
  match l with
  | [] => [s]
  | t :: rest => if s < t then s :: t :: rest else if s = t then t :: rest else t :: insertText s rest

def sortTexts (l : List String) : List String := l.foldl (fun acc s => insertText s acc) []

theorem mem_insertText {s x : String} {l : List String} : x ∈ insertText s l ↔ x = s ∨ x ∈ l := by
  induction l with
  | nil => simp [insertText]
  | cons t l ih =>
    simp only [insertText]
    split
    · simp
    · split
      · rename_i h
        subst h
        simp
      · simp only [List.mem_cons, ih]
        exact or_left_comm

end SourceDigest
