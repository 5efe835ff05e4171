import SourceDigest.Files.Disk
import SourceDigest.Proofs.Json.Keyed

namespace SourceDigest.Files.Item

variable {ns ms : List (List UInt8)} {i j new : Item} {entries : List (List UInt8 × Item)}

theorem at?_append (ns ms : List (List UInt8)) (i : Item) :
    at? (ns ++ ms) i = (at? ns i).bind (at? ms) := by
  induction ns generalizing i with
  | nil => rw [at?_nil]; rfl
  | cons n ns ih =>
    cases i with
    | file content => rfl
    | link target => rfl
    | directory entries =>
      simp only [List.cons_append, at?, Option.bind_assoc]
      exact congrArg _ (funext fun i => ih i)

theorem at?_cons_eq_some_iff {n : List UInt8} :
    at? (n :: ns) i = some j ↔
      ∃ entries k, i = .directory entries ∧ lookupEntry n entries = some k ∧ at? ns k = some j := by
  cases i <;> simp [at?, Option.bind_eq_some_iff]

theorem at?_concat {name : List UInt8} (h : at? ns i = some (.directory entries)) :
    at? (ns ++ [name]) i = lookupEntry name entries := by
  rw [at?_append, h, Option.bind_some, at?]
  cases lookupEntry name entries with
  | none => rfl
  | some j => exact at?_nil j

theorem at?_put_append (h : at? ns i = some j) (new : Item) :
    at? ns (put (ns ++ ms) i new) = some (put ms j new) := by
  induction ns generalizing i with
  | nil =>
    rw [at?_nil] at h ⊢
    cases h
    rfl
  | cons n ns ih =>
    obtain ⟨entries, k, rfl, hk, hj⟩ := at?_cons_eq_some_iff.1 h
    simp only [List.cons_append, put, at?, lookupEntry_putEntry, if_true, hk, Option.getD_some,
      Option.bind_some]
    exact ih hj

theorem at?_put_concat {name : List UInt8} (h : at? ns i = some (.directory entries)) (new : Item) :
    at? (ns ++ [name]) (put (ns ++ [name]) i new) = some new := by
  rw [at?_concat (at?_put_append h new), lookupEntry_putEntry, if_pos rfl]
  rfl

theorem erase_append {n : List UInt8} (hms : ms ≠ []) :
    erase (n :: (ns ++ ms)) (.directory entries) =
      match lookupEntry n entries with
      | some i => .directory (putEntry n (erase (ns ++ ms) i) entries)
      | none => .directory entries := by
  obtain ⟨m, rest, hcons⟩ := List.exists_cons_of_ne_nil (List.append_ne_nil_of_right_ne_nil ns hms)
  rw [hcons]
  rfl

theorem at?_erase_append (h : at? ns i = some j) (hms : ms ≠ []) :
    at? ns (erase (ns ++ ms) i) = some (erase ms j) := by
  induction ns generalizing i with
  | nil =>
    rw [at?_nil] at h ⊢
    cases h
    rfl
  | cons n ns ih =>
    obtain ⟨entries, k, rfl, hk, hj⟩ := at?_cons_eq_some_iff.1 h
    simp only [List.cons_append, erase_append hms, hk, at?, lookupEntry_putEntry, if_true,
      Option.bind_some]
    exact ih hj

theorem lookupEntry_eraseEntry (n x : List UInt8) (entries : List (List UInt8 × Item)) :
    lookupEntry x (eraseEntry n entries) = if n = x then none else lookupEntry x entries := by
  induction entries with
  | nil => simp [eraseEntry, lookupEntry]
  | cons e entries ih =>
    obtain ⟨k, i⟩ := e
    unfold eraseEntry at ih ⊢
    rw [List.filter_cons]
    by_cases hk : k = n
    · subst hk
      by_cases hx : k = x
      · subst hx
        simpa using ih
      · simpa [lookupEntry, hx] using ih
    · by_cases hx : k = x
      · subst hx
        simp [lookupEntry, hk, Ne.symm hk]
      · simp [lookupEntry, ih, hk, hx]

theorem at?_erase_self (hns : ns ≠ []) (i : Item) : at? ns (erase ns i) = none := by
  induction ns generalizing i with
  | nil => exact absurd rfl hns
  | cons n ns ih =>
    cases i with
    | file content => cases ns <;> rfl
    | link target => cases ns <;> rfl
    | directory entries =>
      cases ns with
      | nil => simp [erase, at?, lookupEntry_eraseEntry]
      | cons m ns =>
        rw [erase]
        cases hn : lookupEntry n entries with
        | none => simp [at?, hn]
        | some k =>
          simp only [at?, lookupEntry_putEntry, if_true, Option.bind_some]
          exact ih (List.cons_ne_nil m ns) k

theorem at?_erase_of_not_prefix (h : ¬ ns <+: ms) (hm : ¬ ms <+: ns) :
    at? ms (erase ns i) = at? ms i := by
  induction ns generalizing i ms with
  | nil => exact absurd List.nil_prefix h
  | cons n ns ih =>
    cases ms with
    | nil => exact absurd List.nil_prefix hm
    | cons m ms =>
      rw [List.cons_prefix_cons] at h hm
      cases i with
      | file content => cases ns <;> rfl
      | link target => cases ns <;> rfl
      | directory entries =>
        cases ns with
        | nil =>
          have hnm : n ≠ m := fun hnm => h ⟨hnm, List.nil_prefix⟩
          simp [erase, at?, lookupEntry_eraseEntry, hnm]
        | cons k ns =>
          rw [erase]
          cases hn : lookupEntry n entries with
          | none => rfl
          | some j =>
            simp only [at?, lookupEntry_putEntry]
            split
            · rename_i hnm
              subst hnm
              rw [hn, Option.bind_some, Option.bind_some]
              exact ih (fun hp => h ⟨rfl, hp⟩) fun hp => hm ⟨rfl, hp⟩
            · rfl

inductive LinkFree : Item → Prop
  | file (content : List UInt8) : LinkFree (.file content)
  | directory {entries : List (List UInt8 × Item)} (each : ∀ e ∈ entries, LinkFree e.2) :
    LinkFree (.directory entries)

@[simp]
theorem linkFree_file (content : List UInt8) : (file content).LinkFree := .file content

@[simp]
theorem linkFree_directory_iff : LinkFree (.directory entries) ↔ ∀ e ∈ entries, e.2.LinkFree := by
  constructor
  · rintro ⟨each⟩
    assumption
  · exact .directory

theorem LinkFree.entry {n : List UInt8} (h : LinkFree (.directory entries))
    (hn : lookupEntry n entries = some j) : j.LinkFree := by
  cases h with
  | directory each => exact each (n, j) (mem_of_lookupEntry hn)

theorem LinkFree.at? (h : i.LinkFree) (hj : Item.at? ns i = some j) : j.LinkFree := by
  induction ns generalizing i with
  | nil =>
    rw [at?_nil] at hj
    cases hj
    exact h
  | cons n ns ih =>
    obtain ⟨entries, k, rfl, hk, hj⟩ := at?_cons_eq_some_iff.1 hj
    exact ih (h.entry hk) hj

theorem LinkFree.putEntry {n : List UInt8} (h : LinkFree (.directory entries)) (hj : j.LinkFree) :
    LinkFree (.directory (putEntry n j entries)) := by
  cases h with
  | directory each =>
    refine .directory fun e he => ?_
    rcases mem_of_mem_putEntry he with rfl | he
    · exact hj
    · exact each e he

theorem linkFree_emptyDirectory : emptyDirectory.LinkFree := .directory (by simp)

theorem LinkFree.put (h : i.LinkFree) (hnew : new.LinkFree) (ns : List (List UInt8)) :
    (Item.put ns i new).LinkFree := by
  induction ns generalizing i with
  | nil => cases h <;> exact hnew
  | cons n ns ih =>
    cases h with
    | file content => exact .file content
    | @directory entries each =>
      refine LinkFree.putEntry (.directory each) (ih ?_)
      cases hn : lookupEntry n entries with
      | none => exact linkFree_emptyDirectory
      | some k => exact LinkFree.entry (.directory each) hn

theorem LinkFree.erase (h : i.LinkFree) (ns : List (List UInt8)) : (Item.erase ns i).LinkFree := by
  induction ns generalizing i with
  | nil =>
    cases h with
    | file content => exact .file content
    | directory each => exact .directory each
  | cons n ns ih =>
    cases h with
    | file content => cases ns <;> exact .file content
    | @directory entries each =>
      cases ns with
      | nil => exact .directory fun e he => each e (List.mem_filter.1 he).1
      | cons m ns =>
        rw [Item.erase]
        cases hn : lookupEntry n entries with
        | none => exact .directory each
        | some k => exact LinkFree.putEntry (.directory each) (ih (LinkFree.entry (.directory each) hn))

def IsDirectoryAt (i : Item) (ns : List (List UInt8)) : Prop :=
  ∃ entries, i.at? ns = some (.directory entries)

structure Keeps (but : List (List (List UInt8))) (i j : Item) : Prop where
  file : ∀ ns content, i.at? ns = some (.file content) → ns ∉ but →
    j.at? ns = some (.file content)
  directory : ∀ ns, i.IsDirectoryAt ns → j.IsDirectoryAt ns

theorem Keeps.refl (i : Item) : Keeps [] i i := ⟨fun _ _ h _ => h, fun _ h => h⟩

theorem Keeps.trans {but but' : List (List (List UInt8))} {k : Item} (h : Keeps but i j)
    (h' : Keeps but' j k) : Keeps (but ++ but') i k where
  file ns content hi hns := by
    rw [List.mem_append, not_or] at hns
    exact h'.file ns content (h.file ns content hi hns.1) hns.2
  directory ns hi := h'.directory ns (h.directory ns hi)

theorem at?_eq_none_below (h : ¬ i.IsDirectoryAt ns) (hp : ns <+: ms) (hne : ms ≠ ns) :
    i.at? ms = none := by
  obtain ⟨ks, rfl⟩ := hp
  have hks : ks ≠ [] := fun hks => hne (by rw [hks, List.append_nil])
  obtain ⟨k, ks, rfl⟩ := List.exists_cons_of_ne_nil hks
  rw [at?_append]
  cases hj : i.at? ns with
  | none => rfl
  | some j =>
    cases j with
    | file content => rfl
    | link target => rfl
    | directory entries => exact absurd ⟨entries, hj⟩ h

def Alike : Item → Item → Prop
  | .directory _, .directory _ => True
  | i, j => i = j

theorem keeps_of_change (h : ¬ i.IsDirectoryAt ns)
    (hbeside : ∀ ms, ¬ ns <+: ms → ¬ ms <+: ns → j.at? ms = i.at? ms)
    (habove : ∀ ms ks k, ks ≠ [] → ns = ms ++ ks → i.at? ms = some k →
      ∃ l, j.at? ms = some l ∧ Alike k l) : Keeps [ns] i j := by
  have hat : ∀ ms k, i.at? ms = some k → ms ≠ ns → ∃ l, j.at? ms = some l ∧ Alike k l := by
    intro ms k hk hne
    by_cases hbelow : ns <+: ms
    · rw [at?_eq_none_below h hbelow hne] at hk
      cases hk
    · by_cases hup : ms <+: ns
      · obtain ⟨ks, rfl⟩ := hup
        exact habove ms ks k (fun hks => hne (by rw [hks, List.append_nil])) rfl hk
      · refine ⟨k, (hbeside ms hbelow hup).trans hk, ?_⟩
        cases k <;> simp [Alike]
  constructor
  · intro ms content hi hne
    obtain ⟨l, hl, halike⟩ := hat ms _ hi (by simpa using hne)
    cases halike
    exact hl
  · rintro ms ⟨entries, hi⟩
    obtain ⟨l, hl, halike⟩ := hat ms _ hi fun hms => h (hms ▸ ⟨entries, hi⟩)
    cases l with
    | file content => cases halike
    | link target => cases halike
    | directory entries' => exact ⟨entries', hl⟩

theorem keeps_put (h : ¬ i.IsDirectoryAt ns) (new : Item) : Keeps [ns] i (put ns i new) := by
  refine keeps_of_change h (fun ms => at?_put_of_not_prefix) ?_
  rintro ms ks k hks rfl hk
  obtain ⟨n, ks, rfl⟩ := List.exists_cons_of_ne_nil hks
  refine ⟨_, at?_put_append hk new, ?_⟩
  cases k <;> simp [put, Alike]

theorem keeps_erase (h : ¬ i.IsDirectoryAt ns) : Keeps [ns] i (erase ns i) := by
  refine keeps_of_change h (fun ms => at?_erase_of_not_prefix) ?_
  rintro ms ks k hks rfl hk
  refine ⟨_, at?_erase_append hk hks, ?_⟩
  obtain ⟨n, ks, rfl⟩ := List.exists_cons_of_ne_nil hks
  cases k with
  | file content => cases ks <;> simp [erase, Alike]
  | link target => cases ks <;> simp [erase, Alike]
  | directory entries =>
    cases ks with
    | nil => simp [erase, Alike]
    | cons m ks => cases hn : lookupEntry n entries <;> simp [erase, hn, Alike]

end SourceDigest.Files.Item
