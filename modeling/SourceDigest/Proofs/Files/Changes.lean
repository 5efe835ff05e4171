import SourceDigest.Proofs.Files.Places

namespace SourceDigest.Files

namespace Item

variable {i new : Item} {ns ms : List (List UInt8)} {n : List UInt8}

theorem isDirectoryAt_above {j : Item} (h : i.at? (ns ++ [n]) = some j) : i.IsDirectoryAt ns := by
  rw [at?_append, Option.bind_eq_some_iff] at h
  obtain ⟨k, hk, hj⟩ := h
  obtain ⟨entries, -, rfl, -, -⟩ := at?_cons_eq_some_iff.1 hj
  exact ⟨entries, hk⟩

theorem Keeps.of_nothing {i j : Item} (h : Keeps [ns] i j) (hns : i.at? ns = none) :
    Keeps [] i j where
  file ms content hi _ := h.file ms content hi fun hmem => by
    rw [List.mem_singleton.1 hmem, hns] at hi
    cases hi
  directory := h.directory

theorem keeps_put_emptyDirectory (h : i.at? ns = none) : Keeps [] i (put ns i emptyDirectory) := by
  refine (keeps_put ?_ emptyDirectory).of_nothing h
  rintro ⟨entries, hentries⟩
  rw [h] at hentries
  cases hentries

theorem at?_put_emptyDirectory (hdir : i.IsDirectoryAt ns) (hnone : i.at? (ns ++ [n]) = none)
    (h : ¬ ms <+: ns ++ [n]) : at? ms (put (ns ++ [n]) i emptyDirectory) = i.at? ms := by
  by_cases hbelow : ns ++ [n] <+: ms
  · obtain ⟨ks, rfl⟩ := hbelow
    obtain ⟨entries, hentries⟩ := hdir
    have hks : ks ≠ [] := by
      rintro rfl
      rw [List.append_nil] at h
      exact h List.prefix_rfl
    obtain ⟨k, ks, rfl⟩ := List.exists_cons_of_ne_nil hks
    rw [at?_append (ns ++ [n]), at?_append (ns ++ [n]), at?_put_concat hentries, hnone]
    rfl
  · exact at?_put_of_not_prefix hbelow h

end Item

namespace Disk

variable {d d' e : Disk} {p q : Path} {content : List UInt8} {ns ms : List (List UInt8)}

theorem place_congr (h : e.working = d.working) (p : Path) : e.place p = d.place p := by
  rw [place, place, h]

def stopsFrom (here : List (List UInt8)) : List Component → List (List (List UInt8))
  | [] => []
  | .normal n :: cs => (here ++ [n]) :: stopsFrom (here ++ [n]) cs
  | .root :: cs => stopsFrom [] cs
  | .current :: cs => stopsFrom here cs
  | .parent :: cs => stopsFrom here.dropLast cs

def stops (d : Disk) (p : Path) : List (List (List UInt8)) := stopsFrom d.working p.components

theorem stops_congr (h : e.working = d.working) (p : Path) : e.stops p = d.stops p := by
  rw [stops, stops, h]

theorem stopsFrom_append (here : List (List UInt8)) (as bs : List Component) :
    stopsFrom here (as ++ bs) =
      stopsFrom here as ++ stopsFrom (as.foldl Component.follow here) bs := by
  induction as generalizing here with
  | nil => rfl
  | cons a as ih => cases a <;> simp [stopsFrom, Component.follow, ih]

theorem stops_subset (h : q.components <+: p.components) : d.stops q ⊆ d.stops p := by
  obtain ⟨cs, hcs⟩ := h
  intro ns hns
  rw [stops, ← hcs, stopsFrom_append]
  exact List.mem_append_left _ hns

theorem place_mem_stops {cs : List Component} {n : List UInt8}
    (h : p.components = cs ++ [.normal n]) :
    d.place p ∈ d.stops p := by
  rw [place, stops, h, stopsFrom_append, List.foldl_append]
  exact List.mem_append_right _ List.mem_cons_self

theorem prefix_foldl_follow {cs : List Component} (hroot : .root ∉ cs) (hparent : .parent ∉ cs)
    (here : List (List UInt8)) : here <+: cs.foldl Component.follow here := by
  induction cs generalizing here with
  | nil => exact List.prefix_rfl
  | cons c cs ih =>
    rw [List.mem_cons, not_or] at hroot hparent
    refine .trans ?_ (ih hroot.2 hparent.2 (c.follow here))
    cases c with
    | root => exact absurd rfl hroot.1
    | current => exact List.prefix_rfl
    | parent => exact absurd rfl hparent.1
    | normal n => exact List.prefix_append here [n]

theorem prefix_of_mem_stopsFrom {here : List (List UInt8)} {cs : List Component}
    (hroot : .root ∉ cs.tail) (hparent : .parent ∉ cs) (h : ns ∈ stopsFrom here cs) :
    ns <+: cs.foldl Component.follow here := by
  induction cs generalizing here with
  | nil => cases h
  | cons c cs ih =>
    rw [List.mem_cons, not_or] at hparent
    have hrest : .root ∉ cs.tail := fun hmem => hroot (List.mem_of_mem_tail hmem)
    cases c with
    | root => exact ih hrest hparent.2 h
    | current => exact ih hrest hparent.2 h
    | parent => exact absurd rfl hparent.1
    | normal n =>
      rcases List.mem_cons.1 h with rfl | h
      · exact prefix_foldl_follow hroot hparent.2 _
      · exact ih hrest hparent.2 h

theorem prefix_place_of_mem_stops (hclimbs : p.climbs = false) (h : ns ∈ d.stops p) :
    ns <+: d.place p := by
  refine prefix_of_mem_stopsFrom (fun hroot => ?_) (by simpa [Path.climbs] using hclimbs) h
  cases hp : p.components with
  | nil =>
    rw [hp] at hroot
    cases hroot
  | cons c cs =>
    rw [hp] at hroot
    have hcons : p.components = [c] ++ cs := hp
    exact List.cons_ne_nil c [] (Path.eq_nil_of_root_mem hcons hroot)

inductive Grown (made : List (List (List UInt8))) (d : Disk) : Disk → Prop
  | refl : Grown made d d
  | step {e : Disk} {ns : List (List UInt8)} {n : List UInt8} (h : Grown made d e)
    (hmade : ns ++ [n] ∈ made) (hdir : e.tree.IsDirectoryAt ns) (hnone : e.tree.at? (ns ++ [n]) = none) :
    Grown made d (e.withItem (ns ++ [n]) .emptyDirectory)

variable {made made' : List (List (List UInt8))}

theorem Grown.mono (h : Grown made d e) (hmade : made ⊆ made') : Grown made' d e := by
  induction h with
  | refl => exact .refl
  | step h hm hdir hnone ih => exact .step ih (hmade hm) hdir hnone

theorem Grown.working_eq (h : Grown made d e) : e.working = d.working := by
  induction h with
  | refl => rfl
  | step h hm hdir hnone ih => exact ih

theorem Grown.linkFree (h : Grown made d e) (hfree : d.tree.LinkFree) : e.tree.LinkFree := by
  induction h with
  | refl => exact hfree
  | step h hm hdir hnone ih => exact ih.put Item.linkFree_emptyDirectory _

theorem Grown.keeps (h : Grown made d e) : Item.Keeps [] d.tree e.tree := by
  induction h with
  | refl => exact .refl d.tree
  | step h hm hdir hnone ih => exact ih.trans (Item.keeps_put_emptyDirectory hnone)

theorem Grown.at?_eq (h : Grown made d e) (hms : ∀ ns ∈ made, ms <+: ns → d.tree.IsDirectoryAt ns) :
    e.tree.at? ms = d.tree.at? ms := by
  induction h with
  | refl => rfl
  | step h hm hdir hnone ih =>
    refine (Item.at?_put_emptyDirectory hdir hnone fun hbelow => ?_).trans ih
    obtain ⟨entries, hentries⟩ := h.keeps.directory _ (hms _ hm hbelow)
    rw [hnone] at hentries
    cases hentries

theorem mem_stops_of_absent {dir : List (List UInt8)} {n : List UInt8} (hfree : d.tree.LinkFree)
    (h : d.find .newDirectory p = .ok (.absent dir n)) : dir ++ [n] ∈ d.stops p := by
  obtain ⟨hname, front, hparts⟩ := (reaches_of_find hfree h).last_eq rfl
  have hsteps := filterMap_partsFor .newDirectory p
  -- the missing name is the last step, so it is the path's last component
  rw [hparts, List.filterMap_append, List.filterMap_cons, hname] at hsteps
  have hplace : dir ++ [n] = d.place p := place_of_find hfree h
  rw [hplace]
  exact place_mem_stops (Path.components_concat hsteps.symm)

theorem makeDirectory_grown (hfree : d.tree.LinkFree) (h : d.makeDirectory p = .ok d') :
    Grown (d.stops p) d d' := by
  unfold makeDirectory at h
  split at h
  · cases h
  · cases h
  · rename_i dir n hfind
    cases h
    obtain ⟨entries, hdir, hn⟩ := (reaches_of_find hfree hfind).holdsIn
    exact .step .refl (mem_stops_of_absent hfree hfind) ⟨entries, hdir⟩
      (by rw [Item.at?_concat hdir, hn])

theorem Grown.trans {c : Disk} (h : Grown made c d) (h' : Grown made d e) : Grown made c e := by
  induction h' with
  | refl => exact h
  | step h' hm hdir hnone ih => exact .step ih hm hdir hnone

theorem makeDirectories_grown (hfree : d.tree.LinkFree) (n : Nat) (p : Path) :
    Grown (d.stops p) d (makeDirectories n d p).2 := by
  induction n generalizing p with
  | zero => exact .refl
  | succ n ih =>
    unfold makeDirectories
    dsimp only
    split
    · exact .refl
    split
    · rename_i hmake
      exact makeDirectory_grown hfree hmake
    case h_3 => exact .refl
    case h_2 =>
      split
      · exact .refl
      rename_i parent hparent
      have habove := (ih parent).mono (stops_subset (Path.parent?_prefix hparent))
      split
      · rename_i hfail
        rwa [hfail] at habove
      rename_i e hmade
      rw [hmade] at habove
      split
      · rename_i d' hmake
        have hown := makeDirectory_grown (habove.linkFree hfree) hmake
        rw [stops_congr habove.working_eq] at hown
        exact habove.trans hown
      · exact habove

theorem makeDirectories_of_made {n : Nat} (hbytes : p.bytes.isEmpty = false)
    (h : d.makeDirectory p = .ok e) : makeDirectories (n + 1) d p = (.ok (), e) := by
  simp [makeDirectories, hbytes, h]

theorem makeDirectories_of_above {n : Nat} {c : Cause} (hbytes : p.bytes.isEmpty = false)
    (hmissing : d.makeDirectory p = .error (.system .noEntry)) (hparent : p.parent? = some q)
    (habove : makeDirectories n d q = (.ok (), e)) (hthere : e.makeDirectory p = .error c)
    (hdirectory : e.isDirectory p = true) : makeDirectories (n + 1) d p = (.ok (), e) := by
  simp [makeDirectories, hbytes, hmissing, hparent, habove, hthere, hdirectory]

theorem not_isDirectoryAt_of_holdsIn {tree : Item} {found : Found} (h : found.HoldsIn tree)
    (hfound : ∀ ns entries, found ≠ .item ns (.directory entries)) :
    ¬ tree.IsDirectoryAt found.place := by
  rintro ⟨entries, hentries⟩
  cases found with
  | item ns i =>
    have hi : tree.at? ns = some i := h
    rw [Found.place, hi] at hentries
    cases hentries
    exact hfound ns entries rfl
  | absent dir n =>
    obtain ⟨old, hdir, hn⟩ := h
    rw [Found.place, Item.at?_concat hdir, hn] at hentries
    cases hentries

structure Written (ns : List (List UInt8)) (content : List UInt8) (d d' : Disk) : Prop where
  working_eq : d'.working = d.working
  linkFree : d'.tree.LinkFree
  keeps : Item.Keeps [ns] d.tree d'.tree
  there : d'.tree.at? ns = some (.file content)
  beside : ∀ ms, ¬ ns <+: ms → ¬ ms <+: ns → d'.tree.at? ms = d.tree.at? ms

theorem written_of_found {found : Found} (hfree : d.tree.LinkFree) (hin : found.HoldsIn d.tree)
    (hfound : ∀ ns entries, found ≠ .item ns (.directory entries)) (content : List UInt8) :
    Written found.place content d (d.withItem found.place (.file content)) where
  working_eq := rfl
  linkFree := hfree.put (.file content) _
  keeps := Item.keeps_put (not_isDirectoryAt_of_holdsIn hin hfound) _
  there := by
    cases found with
    | item ns i => exact Item.at?_put_self hin
    | absent dir n => exact Item.at?_put_concat hin.choose_spec.1 _
  beside ms := Item.at?_put_of_not_prefix

theorem write_ok (hfree : d.tree.LinkFree) (h : d.write p content = .ok d') :
    Written (d.place p) content d d' := by
  unfold write at h
  split at h
  case h_1 => cases h
  case h_2 ns old hfind =>
    rw [← place_of_find hfree hfind]
    cases h
    exact written_of_found hfree (reaches_of_find hfree hfind).holdsIn (by simp) content
  case h_3 => cases h
  case h_4 dir n hfind =>
    rw [← place_of_find hfree hfind]
    cases h
    exact written_of_found hfree (reaches_of_find hfree hfind).holdsIn (by simp) content

structure Moved (source target : List (List UInt8)) (d d' : Disk) : Prop where
  working_eq : d'.working = d.working
  linkFree : d'.tree.LinkFree
  keeps : Item.Keeps [source, target] d.tree d'.tree
  gone : d'.tree.at? source = none
  there : d'.tree.at? target = d.tree.at? source

theorem not_prefix_beside {m n : List UInt8} (h : m ≠ n) : ¬ ns ++ [m] <+: ns ++ [n] := by
  simpa [List.prefix_append_right_inj] using h

theorem moved_of_places {m n : List UInt8} {i : Item} (hfree : d.tree.LinkFree) (hmn : m ≠ n)
    (hi : d.tree.at? (ns ++ [m]) = some i) (hm : ¬ d.tree.IsDirectoryAt (ns ++ [m]))
    (hn : ¬ d.tree.IsDirectoryAt (ns ++ [n])) :
    Moved (ns ++ [m]) (ns ++ [n]) d
      { d with tree := (d.tree.erase (ns ++ [m])).put (ns ++ [n]) i } := by
  have herase := Item.keeps_erase hm
  have hn' : ¬ (d.tree.erase (ns ++ [m])).IsDirectoryAt (ns ++ [n]) := by
    rw [Item.IsDirectoryAt,
      Item.at?_erase_of_not_prefix (not_prefix_beside hmn) (not_prefix_beside hmn.symm)]
    exact hn
  obtain ⟨entries, hentries⟩ := herase.directory ns (Item.isDirectoryAt_above hi)
  refine ⟨rfl, (hfree.erase _).put (hfree.at? hi) _, herase.trans (Item.keeps_put hn' i), ?_, ?_⟩
  · exact (Item.at?_put_of_not_prefix (not_prefix_beside hmn.symm) (not_prefix_beside hmn)).trans
      (Item.at?_erase_self (by simp) d.tree)
  · exact (Item.at?_put_concat hentries i).trans hi.symm

theorem rename_cases (h : d.rename p q = .ok d') :
    ∃ old i target, d.find .entry p = .ok (.item old i) ∧ (∀ entries, i ≠ .directory entries) ∧
      d.find .entry q = .ok target ∧ (∀ ns entries, target ≠ .item ns (.directory entries)) ∧
      d' = if target.place = old then d
        else { d with tree := (d.tree.erase old).put target.place i } := by
  unfold rename at h
  split at h
  case h_1 => cases h
  case h_2 => cases h
  case h_3 => cases h
  case h_4 old i hdirectory hsource =>
    have hi : ∀ entries, i ≠ .directory entries := fun entries he => hdirectory entries (he ▸ rfl)
    dsimp only at h
    split at h
    case h_1 => cases h
    case h_2 => cases h
    case h_3 new j hdirectory' htarget =>
      refine ⟨old, i, .item new j, hsource, hi, htarget, ?_, (Except.ok.inj h).symm⟩
      rintro ns entries he
      cases he
      exact hdirectory' entries rfl
    case h_4 dir k htarget =>
      exact ⟨old, i, .absent dir k, hsource, hi, htarget, by simp, (Except.ok.inj h).symm⟩

theorem rename_ok {m n : List UInt8} (hfree : d.tree.LinkFree) (h : d.rename p q = .ok d')
    (hp : d.place p = ns ++ [m]) (hq : d.place q = ns ++ [n]) (hmn : m ≠ n) :
    Moved (ns ++ [m]) (ns ++ [n]) d d' ∧ ∃ target, d.find .entry q = .ok target := by
  obtain ⟨old, i, target, hsource, hi, htarget, htarget', rfl⟩ := rename_cases h
  have hin := (reaches_of_find hfree hsource).holdsIn
  have hin' := (reaches_of_find hfree htarget).holdsIn
  have hm := not_isDirectoryAt_of_holdsIn hin fun _ entries he => hi entries (Found.item.inj he).2
  have hn := not_isDirectoryAt_of_holdsIn hin' htarget'
  obtain rfl : old = ns ++ [m] := (place_of_find hfree hsource).trans hp
  rw [place_of_find hfree htarget, hq] at hn ⊢
  rw [if_neg (by simpa using hmn.symm)]
  exact ⟨moved_of_places hfree hmn hin hm hn, target, htarget⟩

end Disk

end SourceDigest.Files
