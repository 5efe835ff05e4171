import SourceDigest.Proofs.Scan.Budget
import SourceDigest.Proofs.Scan.Description
import SourceDigest.Proofs.Scan.Precedence

namespace SourceDigest

namespace Path

variable {root p q : Path}

def StartsNamed (root p : Path) : Prop :=
  root.bytes = [] → ∃ n, p.components.head? = some (.normal n)

structure Retraceable (root p : Path) : Prop where
  named : StartsNamed root p
  text : p.TextBelow root

theorem startsNamed_of_leads_back (h : p.Descends root)
    (hback : (root.join (relativeTo root p)).components = p.components) : StartsNamed root p := by
  obtain ⟨c, cs, hp, -⟩ := h
  intro hempty
  have hroot : root.components = [] := components_eq_nil_iff.2 hempty
  generalize hnames : (c :: cs).filterMap Component.name? = names
  rw [relativeTo_eq_slashed hp, hnames] at hback
  cases names with
  | nil =>
    -- The way back ends at the empty path, which has no components.
    have hjoin : root.join (slashed []) = root := by
      obtain ⟨bytes⟩ := root
      cases hempty
      rfl
    rw [List.map_nil, hjoin, hp, hroot] at hback
    cases hback
  | cons n names =>
    have hparts : ∀ k ∈ n :: names, (Component.normal k).IsPart k := by
      intro k hk
      rw [← hnames, List.mem_filterMap] at hk
      obtain ⟨d, hd, hname⟩ := hk
      cases d with
      | normal m =>
        obtain rfl := Option.some.inj hname
        exact Component.isPart_of_normal_mem (hp ▸ List.mem_append_right _ hd)
      | root | current | parent => cases hname
    rw [components_join_slashed (List.cons_ne_nil n names) hparts, hroot] at hback
    exact ⟨_, by rw [← hback]; rfl⟩

theorem textBelow_of_leads_back (h : p.Descends root) (hstart : StartsNamed root p)
    (hback : (root.join (relativeTo root p)).components = p.components) : p.TextBelow root := by
  obtain ⟨c, cs, hp, hparent⟩ := h
  rw [components_join_relativeTo hp (List.cons_ne_nil c cs)
    fun _ => exists_name_of_mem hp hparent hstart, hp, List.append_cancel_left_eq] at hback
  exact (textBelow_iff hp).2 fun d hd =>
    Component.isText_iff_shown.2 (List.map_inj_left.1 (hback.trans (List.map_id _).symm) d hd)

theorem leads_back_iff (h : p.Descends root) :
    (root.join (relativeTo root p)).components = p.components ↔ Retraceable root p := by
  constructor
  · intro hback
    have hstart := startsNamed_of_leads_back h hback
    exact ⟨hstart, textBelow_of_leads_back h hstart hback⟩
  · intro hp
    exact components_join_relativeTo_of_descends h hp.named hp.text

theorem Descends.exists_names (h : p.Descends root) (hstart : StartsNamed root p) :
    ∃ dirs name, p.components = root.components ++ (dirs ++ [name]).map .normal ∧
      depthOf (relativeTo root p) = dirs.length := by
  obtain ⟨c, cs, hp, hparent⟩ := h
  obtain ⟨names, hnames⟩ := Component.exists_names fun _ => exists_name_of_mem hp hparent hstart
  have hne : names ≠ [] := by
    rintro rfl
    cases hnames
  rw [hnames] at hp
  have hlast : names.dropLast ++ [names.getLast hne] = names := List.dropLast_concat_getLast hne
  refine ⟨names.dropLast, names.getLast hne, by rw [hlast, hp], ?_⟩
  rw [relativeTo_of_names hp, depthOf_slashed hne (isPart_of_names hp), List.length_dropLast]

theorem relativeTo_injective (hp : p.Descends root) (hq : q.Descends root)
    (hp' : Retraceable root p) (hq' : Retraceable root q)
    (h : relativeTo root p = relativeTo root q) : p.components = q.components := by
  rw [← (leads_back_iff hp).2 hp', ← (leads_back_iff hq).2 hq', h]

theorem Ascending.pairwise_ne {l : List Path} (h : Ascending l) :
    l.Pairwise fun p q => p.components ≠ q.components := by
  refine List.Pairwise.imp (fun {p q} hpq => ?_) h
  intro he
  unfold before at hpq
  rw [← he] at hpq
  exact before_irrefl p hpq

end Path

namespace Scan

open Files (Memory System)

variable {m : Memory} {options : Options} {root p : Path} {found : Logged (List Path)}

def Discovers (m : Memory) (options : Options) (root : Path) (found : Logged (List Path)) : Prop :=
  discover m.system options root = .ok found ∨
    ∃ entries, discoverEntries m.system options root entries = .ok found

theorem Discovers.descends (h : Discovers m options root found) (hp : p ∈ found.value) :
    p.Descends root := by
  rcases h with h | ⟨entries, h⟩
  · exact descends_of_mem_walk m.depth (mem_walk_of_mem_discover h hp)
  · exact descends_of_mem_discoverEntries h hp

theorem ascending_discover (h : discover m.system options root = .ok found) :
    Path.Ascending found.value := by
  unfold discover at h
  split at h
  · cases h
  · cases h
    exact ascending_sorted_walk

theorem Discovers.ascending (h : Discovers m options root found) : Path.Ascending found.value := by
  rcases h with h | ⟨entries, h⟩
  · exact ascending_discover h
  · exact ascending_discoverEntries h

theorem Discovers.pairwise (h : Discovers m options root found) :
    found.value.Pairwise fun p q => Path.Retraceable root p → Path.Retraceable root q →
      Path.relativeTo root p ≠ Path.relativeTo root q := by
  refine h.ascending.pairwise_ne.imp_of_mem fun hp hq hne hp' hq' he => hne ?_
  exact Path.relativeTo_injective (h.descends hp) (h.descends hq) hp' hq' he

theorem paths_describe_sublist (system : System) (options : Options) (root : Path)
    (files : List Path) :
    ((describe system options root files).value.map (·.path)).Sublist
      (files.map (Path.relativeTo root)) := by
  induction files with
  | nil => exact List.Sublist.refl []
  | cons p files ih =>
    rw [describe, List.map_append, List.map_cons, ← List.singleton_append]
    refine List.Sublist.append ?_ ih
    unfold describeFile
    split
    · exact List.nil_sublist _
    · split
      · exact List.nil_sublist _
      · exact List.Sublist.refl _

theorem nodup_paths_taken {system : System} {counter : TokenCounter} {ceiling : UInt64}
    {ordered : List FileRecord} (h : (ordered.map (·.path)).Nodup) :
    ((taken system counter root ceiling ordered).map (·.file.path)).Nodup := by
  have hall : (ordered.filterMap (legible? system counter root)).Pairwise
      fun p q => p.file.path ≠ q.file.path := by
    refine List.Pairwise.filterMap (R := fun f g : FileRecord => f.path ≠ g.path) _ ?_
      (List.pairwise_map.1 h)
    intro f g hne p hp q hq
    rwa [file_of_legible? hp, file_of_legible? hq]
  have hrun := (taken_fillsBudget system counter root ceiling ordered).run
  exact List.pairwise_map.2 (hall.sublist hrun.sublist)

theorem fileSize_of_read {text : String} (h : m.read p = .ok text) :
    m.fileSize p = .ok (UInt64.ofNat text.utf8ByteSize) := by
  rw [Memory.fileSize, (Memory.read_eq_ok_iff.1 h).2]

theorem mem_zip_ofPieces {pieces : List Piece} {e : FileRecord × String}
    (h : e ∈ (Collection.ofPieces pieces).files.zip (Collection.ofPieces pieces).sources) :
    ∃ piece ∈ pieces, (piece.file, piece.source) = e := by
  simpa only [Collection.ofPieces, List.zip_map', List.mem_map] using h

structure Addresses (m : Memory) (root : Path) (files : List Path) (c : Collection) : Prop where
  measured : ∀ e ∈ c.files.zip c.sources,
    ∃ p ∈ files, e.1.path = Path.relativeTo root p ∧ m.fileSize p = .ok e.1.size
  read : ∀ e ∈ c.files.zip c.sources, ∀ p ∈ files, Path.Retraceable root p →
    e.1.path = Path.relativeTo root p →
      m.read p = .ok e.2 ∧ m.fileSize p = .ok (UInt64.ofNat e.2.utf8ByteSize)
  keys : (∀ p ∈ files, Path.Retraceable root p) → (c.files.map (·.path)).Nodup

theorem Discovers.addresses (hfound : Discovers m options root found) {counter : TokenCounter}
    {ceiling : UInt64} {ordered : List FileRecord} {c : Logged Collection}
    (hordered : (ordered.map fun f => (f.path, f.size)).Perm
      ((describe m.system options root found.value).value.map fun f => (f.path, f.size)))
    (h : collect m.system counter root ceiling ordered = .ok c) :
    Addresses m root found.value c.value := by
  obtain ⟨-, hc⟩ := (collect_eq_ok_iff m.system counter).1 ⟨c.log, h⟩
  rw [hc]
  constructor
  case measured =>
    intro e he
    obtain ⟨piece, hpiece, rfl⟩ := mem_zip_ofPieces he
    have hmem := (legible?_of_mem_taken m.system counter hpiece).1
    obtain ⟨f, hf, hkey⟩ := List.mem_map.1 (hordered.subset (List.mem_map_of_mem hmem))
    obtain ⟨p, hp, size, hsize, -, rfl⟩ := mem_describe_iff.1 hf
    obtain ⟨hpath, rfl⟩ := Prod.mk.inj hkey
    exact ⟨p, hp, hpath.symm, hsize⟩
  case read =>
    intro e he p hp hretrace hpath
    obtain ⟨piece, hpiece, rfl⟩ := mem_zip_ofPieces he
    have hread : m.read (root.join piece.file.path) = .ok piece.source :=
      read_of_mem_takePieces m.system counter hpiece
    rw [hpath] at hread
    have hback := (Path.leads_back_iff (hfound.descends hp)).2 hretrace
    have htext := Memory.read_of_components_eq hback.symm hread
    exact ⟨htext, fileSize_of_read htext⟩
  case keys =>
    intro hall
    have hpaths : (found.value.map (Path.relativeTo root)).Nodup :=
      List.pairwise_map.2 (hfound.pairwise.imp_of_mem fun hp hq hne => hne (hall _ hp) (hall _ hq))
    have hperm : (ordered.map (·.path)).Perm
        ((describe m.system options root found.value).value.map (·.path)) := by
      simpa only [List.map_map, Function.comp_def] using hordered.map Prod.fst
    have hnodup := hperm.nodup_iff.2 ((paths_describe_sublist _ _ _ _).nodup hpaths)
    rw [Collection.ofPieces, List.map_map]
    exact nodup_paths_taken hnodup

theorem discovers_addressed (h : Discovers m options root found) :
    (∀ p ∈ found.value,
      ((root.join (Path.relativeTo root p)).components = p.components ↔
          Path.Retraceable root p) ∧
        (discover m.system options root = .ok found → p.TextBelow root) ∧
        (Path.StartsNamed root p → ∃ dirs name,
          p.components = root.components ++ (dirs ++ [name]).map .normal ∧
            depthOf (Path.relativeTo root p) = dirs.length)) ∧
      (found.value.Pairwise fun p q => Path.Retraceable root p → Path.Retraceable root q →
        Path.relativeTo root p ≠ Path.relativeTo root q) ∧
      ∀ counter ceiling ordered c,
        (ordered.map fun f => (f.path, f.size)).Perm
            ((describe m.system options root found.value).value.map fun f => (f.path, f.size)) →
          collect m.system counter root ceiling ordered = .ok c →
            Addresses m root found.value c.value := by
  refine ⟨fun p hp => ⟨?_, ?_, ?_⟩, h.pairwise, fun _ _ _ _ hordered hcollect => ?_⟩
  · exact Path.leads_back_iff (h.descends hp)
  · exact fun hfound => textBelow_of_mem_walk m.depth (mem_walk_of_mem_discover hfound hp)
  · exact (h.descends hp).exists_names
  · exact h.addresses hordered hcollect

def nestedTree : Memory := ⟨[(⟨"/p/a.ts"⟩, "x"), (⟨"/p/src/b.ts"⟩, "yy")], []⟩

def nestedFiles : List Path := [⟨"/p/a.ts"⟩, ⟨"/p/src/b.ts"⟩]

def nestedRecords : List FileRecord := [⟨"a.ts", 1, none⟩, ⟨"src/b.ts", 2, none⟩]

def nestedCollection : Collection :=
  .ofPieces [⟨⟨"a.ts", 1, none⟩, "x", 12⟩, ⟨⟨"src/b.ts", 2, none⟩, "yy", 14⟩]

theorem discovers_addressed_nestedTree :
    Discovers nestedTree .default ⟨"/p"⟩ ⟨nestedFiles, [foundRecord ⟨"/p"⟩ 2]⟩ ∧
      (Path.join ⟨"/p"⟩ (Path.relativeTo ⟨"/p"⟩ ⟨"/p/src/b.ts"⟩)).components =
        (Path.mk "/p/src/b.ts").components ∧
      collect nestedTree.system (.estimate 2048) ⟨"/p"⟩ 100 nestedRecords =
        .ok ⟨nestedCollection, [collectedRecord nestedCollection 2 100]⟩ ∧
      Addresses nestedTree ⟨"/p"⟩ nestedFiles nestedCollection := by
  have hfound : Discovers nestedTree .default ⟨"/p"⟩ ⟨nestedFiles, [foundRecord ⟨"/p"⟩ 2]⟩ :=
    Or.inr ⟨[⟨"src"⟩, ⟨"a.ts"⟩], by decide +kernel⟩
  have hrecords : (nestedRecords.map fun f => (f.path, f.size)).Perm
      ((describe nestedTree.system .default ⟨"/p"⟩ nestedFiles).value.map
        fun f => (f.path, f.size)) := by
    decide +kernel
  have hcollect : collect nestedTree.system (.estimate 2048) ⟨"/p"⟩ 100 nestedRecords =
      .ok ⟨nestedCollection, [collectedRecord nestedCollection 2 100]⟩ := by
    decide +kernel
  obtain ⟨hpaths, -, hcollected⟩ := discovers_addressed hfound
  have hretrace : Path.Retraceable ⟨"/p"⟩ ⟨"/p/src/b.ts"⟩ :=
    ⟨fun hempty => absurd hempty (by decide), by decide +kernel⟩
  refine ⟨hfound, (hpaths _ (by decide)).1.2 hretrace, hcollect, ?_⟩
  exact hcollected _ _ _ _ hrecords hcollect

def twinTree : Memory := ⟨[(⟨"/a.ts"⟩, "x"), (⟨"a.ts"⟩, "y")], []⟩

def foreignTwins : List Path :=
  [⟨Text.Utf8.encode "/p/d" ++ 0xfe :: Text.Utf8.encode "/a.ts"⟩, foreignFile]

theorem discovers_twins :
    (discoverEntries twinTree.system .default ⟨""⟩ [⟨"/a.ts"⟩, ⟨"a.ts"⟩] =
        .ok ⟨[⟨"/a.ts"⟩, ⟨"a.ts"⟩], [foundRecord ⟨""⟩ 2]⟩ ∧
      Path.relativeTo ⟨""⟩ ⟨"/a.ts"⟩ = "a.ts" ∧ Path.relativeTo ⟨""⟩ ⟨"a.ts"⟩ = "a.ts" ∧
      (Path.join ⟨""⟩ "a.ts").components ≠ (Path.mk "/a.ts").components ∧
      depthOf "a.ts" = 0 ∧ (Path.mk "/a.ts").components = [.root, .normal "a.ts"]) ∧
    discoverEntries (Memory.mk (foreignTwins.map (·, "x")) []).system .default ⟨"/p"⟩
        [⟨[100, 0xfe]⟩, ⟨[100, 0xff]⟩] = .ok ⟨foreignTwins, [foundRecord ⟨"/p"⟩ 2]⟩ ∧
      foreignTwins.Nodup ∧
      ∀ p ∈ foreignTwins, Path.relativeTo ⟨"/p"⟩ p = "d\ufffd/a.ts" ∧
        (Path.join ⟨"/p"⟩ (Path.relativeTo ⟨"/p"⟩ p)).components ≠ p.components := by
  decide +kernel

end Scan

end SourceDigest
