import SourceDigest.Proofs.Json.Keyed
import SourceDigest.Proofs.Schema.Validity

namespace SourceDigest

namespace Schema

open Json (Value Decoding Record)

variable {s items : Schema} {name : String} {summary : Option String}
  {fields : List (String × String × Schema)} {members : List (String × Value)} {v : Value}

mutual

def withNames : Schema → Value → Value
  | .list items, .array vs => .array (vs.map (withNames items))
  | .record _ _ fields, .object members => .object (withNamesBelow fields members)
  | .record _ _ fields, .array vs =>
    if vs.length = fields.length then .object (namedItems fields vs) else .array vs
  | _, v => v

def withNamesBelow : List (String × String × Schema) → List (String × Value) → List (String × Value)
  | [], members => members
  | (name, _, schema) :: fields, members =>
    withNamesBelow fields
      (members.map fun m => (m.1, if m.1 = name then withNames schema m.2 else m.2))

def namedItems : List (String × String × Schema) → List Value → List (String × Value)
  | (name, _, schema) :: fields, v :: vs => (name, withNames schema v) :: namedItems fields vs
  | _, _ => []

end

def Decides {α : Type} (s : Schema) (item : Value → Decoding α) : Prop :=
  ∀ v : Value, v.Keyed → (item v).isOk = s.accepts (s.withNames v)

structure FieldDecides {σ : Type} (f : Json.Field σ) (entry : String × String × Schema) : Prop where
  name : f.name = entry.1
  required : f.required = true
  set : ∀ (v : Value) (a : σ), v.Keyed →
    (f.set v a).isOk = entry.2.2.accepts (entry.2.2.withNames v)

@[simp] theorem isOk_ok {ε α : Type} (a : α) : (.ok a : Except ε α).isOk = true := rfl

@[simp] theorem isOk_error {ε α : Type} (e : ε) : (.error e : Except ε α).isOk = false := rfl

theorem isOk_map {ε α β : Type} (x : Except ε α) (f : α → β) : (x.map f).isOk = x.isOk := by
  cases x <;> rfl

theorem Decides.field {σ α : Type} {item : Value → Decoding α} (h : s.Decides item) (name : String)
    (purpose : String) (put : σ → α → σ) :
    FieldDecides (Json.Field.of name true item put) (name, purpose, s) where
  name := rfl
  required := rfl
  set v _ hv := (isOk_map _ _).trans (h v hv)

theorem decides_text : text.Decides Value.decodeText := by
  intro v _
  cases v <;> rfl

theorem isOk_decodeItems {α : Type} (item : Value → Decoding α) (vs : List Value) :
    (Value.decodeItems item vs).isOk = vs.all fun v => (item v).isOk := by
  induction vs with
  | nil => rfl
  | cons v vs ih =>
    rw [Value.decodeItems, List.all_cons, ← ih]
    cases item v with
    | error e => rfl
    | ok a => cases Value.decodeItems item vs <;> rfl

theorem Decides.list {α : Type} {item : Value → Decoding α} (h : items.Decides item) :
    (Schema.list items).Decides (Value.decodeList item) := by
  intro v hv
  cases hv with
  | @array vs each =>
    rw [Value.decodeList, isOk_decodeItems, withNames, accepts, List.all_map, Bool.eq_iff_iff,
      List.all_eq_true, List.all_eq_true]
    refine forall₂_congr fun w hw => ?_
    rw [h w (each w hw), Function.comp_apply]
  | _ => rfl

theorem lookupEntry_map_named {α : Type} (k name : String) (g : α → α) (l : List (String × α)) :
    lookupEntry k (l.map fun m => (m.1, if m.1 = name then g m.2 else m.2)) =
      (lookupEntry k l).map fun a => if k = name then g a else a := by
  induction l with
  | nil => rfl
  | cons m l ih =>
    simp only [List.map_cons, lookupEntry, ih]
    split
    · rename_i hk
      rw [hk]
      rfl
    · rfl

theorem lookupEntry_withNamesBelow_of_not_mem {k : String} (h : k ∉ fields.map Prod.fst) :
    lookupEntry k (withNamesBelow fields members) = lookupEntry k members := by
  induction fields generalizing members with
  | nil => rfl
  | cons f fields ih =>
    rw [List.map_cons, List.mem_cons, not_or] at h
    rw [withNamesBelow, ih h.2, lookupEntry_map_named]
    simp only [if_neg h.1, Option.map_id']

theorem lookupEntry_withNamesBelow (distinct : (fields.map Prod.fst).Nodup)
    {f : String × String × Schema} (hf : f ∈ fields) :
    lookupEntry f.1 (withNamesBelow fields members) =
      (lookupEntry f.1 members).map f.2.2.withNames := by
  induction fields generalizing members with
  | nil => cases hf
  | cons g fields ih =>
    rw [List.map_cons, List.nodup_cons] at distinct
    rw [withNamesBelow]
    rcases List.mem_cons.1 hf with rfl | hf
    · rw [lookupEntry_withNamesBelow_of_not_mem distinct.1, lookupEntry_map_named]
      simp only [if_true]
    · have hne : f.1 ≠ g.1 := fun he => distinct.1 (he ▸ List.mem_map_of_mem hf)
      rw [ih distinct.2 hf, lookupEntry_map_named]
      simp only [if_neg hne, Option.map_id']

theorem acceptsFields_withNamesBelow_iff (distinct : (fields.map Prod.fst).Nodup) :
    acceptsFields fields (withNamesBelow fields members) = true ↔
      ∀ f ∈ fields, ∃ w, lookupEntry f.1 members = some w ∧
        f.2.2.accepts (f.2.2.withNames w) = true := by
  rw [acceptsFields_iff]
  refine forall₂_congr fun f hf => ?_
  simp only [lookupEntry_withNamesBelow distinct hf, Option.map_eq_some_iff,
    exists_exists_and_eq_and]

theorem acceptsFields_cons_of_not_mem {k : String} (h : k ∉ fields.map Prod.fst) :
    acceptsFields fields ((k, v) :: members) = acceptsFields fields members := by
  induction fields with
  | nil => rfl
  | cons f fields ih =>
    rw [List.map_cons, List.mem_cons, not_or] at h
    simp only [acceptsFields, lookupEntry, if_neg h.1, ih h.2]

section Records

variable {σ : Type} {r : Record σ} {fs : List (Json.Field σ)}

theorem field?_cases (h : List.Forall₂ FieldDecides r.fields fields) (k : String) :
    (r.field? k = none ∧ k ∉ fields.map Prod.fst) ∨
      ∃ f, r.field? k = some f ∧ ∃ e ∈ fields, e.1 = k ∧ FieldDecides f e := by
  unfold Record.field?
  generalize r.fields = fs at h
  induction h with
  | nil => exact Or.inl ⟨rfl, by simp⟩
  | @cons f e fs fields hf _ ih =>
    by_cases hk : f.name = k
    · refine Or.inr ⟨f, ?_, e, List.mem_cons_self, hf.name.symm.trans hk, hf⟩
      simp [hk]
    · have hne : k ≠ e.1 := fun he => hk (hf.name.trans he.symm)
      rw [List.find?_cons_of_neg (by simpa using hk)]
      refine ih.imp (And.imp_right fun hnot => by simp [hne, hnot]) ?_
      rintro ⟨g, hg, e', he', hrest⟩
      exact ⟨g, hg, e', List.mem_cons_of_mem e he', hrest⟩

theorem isOk_setMembers_iff (h : List.Forall₂ FieldDecides r.fields fields)
    (distinct : (fields.map Prod.fst).Nodup) (hkeyed : ∀ m ∈ members, m.2.Keyed) (a : σ) :
    (r.setMembers members a).isOk = true ↔
      ∀ m ∈ members, ∀ e ∈ fields, e.1 = m.1 →
        e.2.2.accepts (e.2.2.withNames m.2) = true := by
  induction members generalizing a with
  | nil => exact iff_of_true rfl (by simp)
  | cons m members ih =>
    obtain ⟨k, v⟩ := m
    have hv : v.Keyed := hkeyed (k, v) List.mem_cons_self
    have hrest := fun b => ih (fun m hm => hkeyed m (List.mem_cons_of_mem _ hm)) b
    rw [List.forall_mem_cons, Record.setMembers]
    rcases field?_cases h k with ⟨hnone, hk⟩ | ⟨f, hfield, e, he, rfl, hf⟩
    · have hfree : ∀ e ∈ fields, e.1 = k → e.2.2.accepts (e.2.2.withNames v) = true := by
        rintro e he rfl
        exact absurd (List.mem_map_of_mem he) hk
      rw [hnone, hrest]
      exact (and_iff_right hfree).symm
    · have hone : (∀ e' ∈ fields, e'.1 = e.1 → e'.2.2.accepts (e'.2.2.withNames v) = true) ↔
          e.2.2.accepts (e.2.2.withNames v) = true := by
        refine ⟨fun hall => hall e he rfl, fun haccepts e' he' heq => ?_⟩
        rwa [List.inj_on_of_nodup_map distinct he' he heq]
      have hset := hf.set v a hv
      rw [hfield, hone, ← hset]
      cases hresult : f.set v a with
      | error m => simp [hresult]
      | ok b => simpa [hresult] using hrest b

theorem missing?_eq_none_iff (h : List.Forall₂ FieldDecides r.fields fields) :
    r.missing? members = none ↔ ∀ e ∈ fields, ∃ w, lookupEntry e.1 members = some w := by
  unfold Record.missing?
  generalize r.fields = fs at h
  induction h with
  | nil => simp
  | cons hf _ ih =>
    rw [List.forall_mem_cons, ← ih, List.find?_cons, hf.required, hf.name, Bool.true_and]
    cases lookupEntry _ members <;> simp

theorem isOk_ofMembers (h : List.Forall₂ FieldDecides r.fields fields)
    (distinct : (fields.map Prod.fst).Nodup) (ascend : KeysAscend members)
    (hkeyed : ∀ m ∈ members, m.2.Keyed) (start : σ) :
    (r.ofMembers start members).isOk = acceptsFields fields (withNamesBelow fields members) := by
  have hsplit : (r.ofMembers start members).isOk = true ↔
      (r.setMembers members start).isOk = true ∧ r.missing? members = none := by
    rw [Record.ofMembers]
    cases r.setMembers members start with
    | error e => simp
    | ok a => cases r.missing? members <;> simp
  rw [Bool.eq_iff_iff, hsplit, isOk_setMembers_iff h distinct hkeyed, missing?_eq_none_iff h,
    acceptsFields_withNamesBelow_iff distinct]
  constructor
  · rintro ⟨haccepts, hgiven⟩ e he
    obtain ⟨w, hw⟩ := hgiven e he
    exact ⟨w, hw, haccepts _ (mem_of_lookupEntry hw) e he rfl⟩
  · intro hall
    -- A key stands once, so a member under a field's name is what look-up finds there.
    refine ⟨fun m hm e he hkey => ?_, fun e he => ?_⟩
    · obtain ⟨w, hw, haccepts⟩ := hall e he
      rw [hkey, lookupEntry_of_mem ascend hm] at hw
      rwa [Option.some.inj hw]
    · obtain ⟨w, hw, -⟩ := hall e he
      exact ⟨w, hw⟩

theorem isOk_setItems (h : List.Forall₂ FieldDecides fs fields)
    (distinct : (fields.map Prod.fst).Nodup) {vs : List Value} (hkeyed : ∀ v ∈ vs, v.Keyed) (n : Nat)
    (a : σ) :
    (r.setItems n fs vs a).isOk =
      (decide (vs.length = fields.length) && acceptsFields fields (namedItems fields vs)) := by
  induction h generalizing vs n a with
  | nil =>
    cases vs with
    | nil => rfl
    | cons v vs => rfl
  | @cons f e fs fields hf _ ih =>
    rw [List.map_cons, List.nodup_cons] at distinct
    cases vs with
    | nil => simp [Record.setItems, hf.required]
    | cons v vs =>
      rw [List.forall_mem_cons] at hkeyed
      have hset := hf.set v a hkeyed.1
      rw [namedItems, acceptsFields, lookupEntry, if_pos rfl,
        acceptsFields_cons_of_not_mem distinct.1, Record.setItems]
      simp only [← hset, List.length_cons, Nat.add_right_cancel_iff]
      cases hresult : f.set v a with
      | error m => simp
      | ok b =>
        rw [ih distinct.2 hkeyed.2]
        simp

theorem Decides.record (h : List.Forall₂ FieldDecides r.fields fields)
    (distinct : (fields.map Prod.fst).Nodup) (start : σ) :
    (Schema.record name summary fields).Decides (r.decode start) := by
  intro v hv
  cases hv with
  | object ascend each => exact isOk_ofMembers h distinct ascend each start
  | @array vs each =>
    rw [Record.decode, isOk_setItems h distinct each, withNames]
    split
    · rename_i hlen
      rw [accepts, decide_eq_true hlen, Bool.true_and]
    · rename_i hlen
      simp [accepts, hlen]
  | _ => rfl

end Records

mutual

theorem withNames_of_accepts : ∀ (s : Schema) {v : Value}, v.Keyed → s.accepts v = true →
    s.withNames v = v
  | .text, v, _, _ => by rw [withNames] <;> simp
  | .list items, v, hv, h => by
    obtain ⟨vs, rfl, hvs⟩ := accepts_list_iff.1 h
    cases hv with
    | array each =>
      have hsame : vs.map items.withNames = vs.map id :=
        List.map_congr_left fun w hw => withNames_of_accepts items (each w hw) (hvs w hw)
      rw [withNames, hsame, List.map_id]
  | .record _ _ fields, v, hv, h => by
    cases hv with
    | object ascend each =>
      rw [withNames, withNamesBelow_of_accepts fields ascend each h]
    | _ => cases h

theorem withNamesBelow_of_accepts : ∀ (fields : List (String × String × Schema))
    {members : List (String × Value)}, KeysAscend members → (∀ m ∈ members, m.2.Keyed) →
    acceptsFields fields members = true → withNamesBelow fields members = members
  | [], _, _, _, _ => rfl
  | (name, _, s) :: fields, members, ascend, each, h => by
    rw [acceptsFields, Bool.and_eq_true] at h
    obtain ⟨hfield, hrest⟩ := h
    split at hfield
    · rename_i w hw
      have hsame : (members.map fun m => (m.1, if m.1 = name then s.withNames m.2 else m.2)) =
          members.map id := by
        refine List.map_congr_left fun m hm => ?_
        split
        · rename_i hname
          rw [← hname, lookupEntry_of_mem ascend hm] at hw
          cases hw
          rw [withNames_of_accepts s (each m hm) hfield]
          rfl
        · rfl
      rw [withNamesBelow, hsame, List.map_id]
      exact withNamesBelow_of_accepts fields ascend each hrest
    · cases hfield

end

end Schema

end SourceDigest
