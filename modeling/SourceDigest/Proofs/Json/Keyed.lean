import SourceDigest.Proofs.Json.Decoding
import SourceDigest.Reply.Parse

namespace SourceDigest

section Entries

variable {α : Type}

theorem mem_of_mem_putEntry {κ : Type} [DecidableEq κ] [LT κ] [DecidableLT κ] {k : κ} {a : α}
    {e : κ × α} {l : List (κ × α)} (h : e ∈ putEntry k a l) : e = (k, a) ∨ e ∈ l := by
  induction l with
  | nil => exact Or.inl (List.mem_singleton.1 h)
  | cons d l ih =>
    obtain ⟨k', a'⟩ := d
    rw [putEntry] at h
    split at h
    · exact List.mem_cons.1 h
    · split at h
      · exact (List.mem_cons.1 h).imp_right (List.mem_cons_of_mem _)
      · rcases List.mem_cons.1 h with rfl | h
        · exact Or.inr List.mem_cons_self
        · exact (ih h).imp_right (List.mem_cons_of_mem _)

theorem putEntries_subset (l : List (String × α)) : putEntries l ⊆ l := by
  have hfold : ∀ acc : List (String × α),
      l.foldl (fun acc e => putEntry e.1 e.2 acc) acc ⊆ acc ++ l := by
    induction l with
    | nil => simp
    | cons d l ih =>
      intro acc e he
      rcases List.mem_append.1 (ih _ he) with hput | hl
      · rcases mem_of_mem_putEntry hput with rfl | hacc
        · simp
        · exact List.mem_append_left _ hacc
      · exact List.mem_append_right _ (List.mem_cons_of_mem d hl)
  exact hfold []

end Entries

namespace Json

namespace Value

inductive Keyed : Value → Prop
  | null : Keyed .null
  | bool (b : Bool) : Keyed (.bool b)
  | number (n : Number) : Keyed (.number n)
  | string (s : String) : Keyed (.string s)
  | array {items : List Value} (each : ∀ v ∈ items, Keyed v) : Keyed (.array items)
  | object {members : List (String × Value)} (ascend : KeysAscend members)
    (each : ∀ m ∈ members, Keyed m.2) : Keyed (.object members)

theorem keyed_ofMembers {members : List (String × Value)} (h : ∀ m ∈ members, m.2.Keyed) :
    (ofMembers members).Keyed :=
  .object (keysAscend_foldl_putEntry .nil) fun m hm => h m (putEntries_subset members hm)

end Value

theorem Word.keyed_value (w : Word) : w.value.Keyed := by
  rcases w.value_scalar with h | ⟨b, h⟩ | ⟨n, h⟩
  · exact h ▸ .null
  · exact h ▸ .bool b
  · exact h ▸ .number n

theorem Doc.keyed_value (d : Doc) : d.value.Keyed := by
  induction d using Doc.induct with
  | word w => exact w.keyed_value
  | string gs => exact .string (spelled gs)
  | group k es tail ih =>
    rw [value_group]
    cases k with
    | square =>
      refine .array fun v hv => ?_
      rw [List.map_map] at hv
      obtain ⟨e, he, rfl⟩ := List.mem_map.1 hv
      exact ih e he
    | curly =>
      refine Value.keyed_ofMembers fun m hm => ?_
      obtain ⟨e, he, rfl⟩ := List.mem_map.1 hm
      exact ih e he

theorem keyed_of_parse {t : List Char} {v : Value} (h : parse t = .ok v) : v.Keyed := by
  obtain ⟨lead, trail, doc, hlays⟩ := exists_lays_of_parse h
  exact hlays.value ▸ doc.keyed_value

end Json

namespace Reply

theorem keyed_of_parse {raw : String} {v : Json.Value} (h : parse raw = .ok v) : v.Keyed := by
  unfold parse parseBody at h
  split at h
  · rename_i hstrict
    cases h
    exact Json.keyed_of_parse hstrict
  · split at h
    · cases h
    · split at h
      · rename_i hstrict
        cases h
        exact Json.keyed_of_parse hstrict
      · split at h
        · rename_i hrepaired
          cases h
          exact Json.keyed_of_parse hrepaired
        · cases h

end Reply

end SourceDigest
