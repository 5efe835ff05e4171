import SourceDigest.Proofs.Files.Changes
import SourceDigest.Proofs.Path.Relative
import SourceDigest.Snapshot

namespace SourceDigest.Snapshot

open Files Files.Disk

variable {directory : Option Path} {root q : Path} {d d' : Disk} {x : Digest} {f : Failure}
  {result : Except Failure Path}

def home (directory : Option Path) (root : Path) : Path := directory.getD (root.join directoryName)

def temporaryName : List UInt8 := fileName ++ Text.Utf8.encode ".tmp"

theorem isPart_fileName : (Component.normal fileName).IsPart fileName :=
  ⟨by decide, by decide⟩

theorem isPart_temporaryName : (Component.normal temporaryName).IsPart temporaryName :=
  ⟨by decide, by decide⟩

theorem path_eq (directory : Option Path) (root : Path) :
    path directory root = (home directory root).join fileName := rfl

theorem temporary_path (directory : Option Path) (root : Path) :
    temporary (path directory root) = (home directory root).join temporaryName := by
  rw [path_eq, Path.join_eq_lead (by decide), Path.join_eq_lead (by decide), temporary,
    temporaryName, List.append_assoc]

theorem place_path (d : Disk) (directory : Option Path) (root : Path) :
    d.place (path directory root) = d.place (home directory root) ++ [fileName] :=
  d.place_join _ isPart_fileName

theorem place_temporary (d : Disk) (directory : Option Path) (root : Path) :
    d.place (temporary (path directory root)) = d.place (home directory root) ++ [temporaryName] := by
  rw [temporary_path, d.place_join _ isPart_temporaryName]

def Clear (d : Disk) (directory : Option Path) (root : Path) : Prop :=
  (∃ old, d.tree.at? (d.place (path directory root)) = some (.file old)) ∨
    ∀ ns ∈ d.stops (home directory root), d.place (path directory root) <+: ns →
      d.tree.IsDirectoryAt ns

theorem clear_of_apart
    (h : ∀ ns ∈ d.stops (home directory root), ¬ d.place (path directory root) <+: ns) :
    Clear d directory root :=
  .inr fun ns hns hbelow => absurd hbelow (h ns hns)

theorem clear_of_not_climbs (h : (home directory root).climbs = false) : Clear d directory root := by
  refine clear_of_apart fun ns hns hbelow => ?_
  rw [place_path] at hbelow
  have hlength := (hbelow.trans (prefix_place_of_mem_stops h hns)).length_le
  rw [List.length_append, List.length_singleton] at hlength
  omega

theorem Clear.at?_eq (h : Clear d directory root)
    (hgrown : Grown (d.stops (home directory root)) d d') :
    d'.tree.at? (d.place (path directory root)) = d.tree.at? (d.place (path directory root)) := by
  rcases h with ⟨old, hold⟩ | h
  · rw [hold]
    exact hgrown.keeps.file _ old hold (by simp)
  · exact hgrown.at?_eq h

theorem prepare_grown (hfree : d.tree.LinkFree) (directory : Option Path) (root : Path) :
    Grown (d.stops (home directory root)) d (prepare (path directory root) d).2 := by
  obtain ⟨parent, hparent, hcomponents⟩ :=
    Path.exists_parent? (Path.components_join (p := home directory root) isPart_fileName)
  have hway : d.stops parent ⊆ d.stops (home directory root) :=
    stops_subset ⟨[], by rw [List.append_nil, hcomponents]⟩
  have hgrown :=
    (makeDirectories_grown hfree (parent.components.length + 1) parent).mono hway
  rw [path_eq, prepare, hparent]
  dsimp only
  split
  · rename_i hmade
    rwa [← ensureDirectory, hmade] at hgrown
  · rename_i hfail
    rwa [← ensureDirectory, hfail] at hgrown

def content (x : Digest) : List UInt8 := Text.Utf8.encode (render x)

inductive Persisted (directory : Option Path) (d : Disk) (x : Digest) :
    Except Failure Path → Disk → Prop
  | unwritten {f : Failure} {prepared : Disk}
    (grown : Grown (d.stops (home directory ⟨x.root⟩)) d prepared) :
    Persisted directory d x (.error f) prepared
  | unmoved {f : Failure} {prepared written : Disk}
    (grown : Grown (d.stops (home directory ⟨x.root⟩)) d prepared)
    (wrote : Written (d.place (home directory ⟨x.root⟩) ++ [temporaryName]) (content x)
      prepared written) :
    Persisted directory d x (.error f) written
  | moved {prepared written moved : Disk}
    (grown : Grown (d.stops (home directory ⟨x.root⟩)) d prepared)
    (wrote : Written (d.place (home directory ⟨x.root⟩) ++ [temporaryName]) (content x)
      prepared written)
    (replaced : Moved (d.place (home directory ⟨x.root⟩) ++ [temporaryName])
      (d.place (home directory ⟨x.root⟩) ++ [fileName]) written moved)
    (found : ∃ target, written.find .entry (path directory ⟨x.root⟩) = .ok target) :
    Persisted directory d x (.ok (path directory ⟨x.root⟩)) moved

theorem fileName_ne_temporaryName : fileName ≠ temporaryName := by decide

theorem persisted (hfree : d.tree.LinkFree) (directory : Option Path) (x : Digest) :
    Persisted directory d x (write directory d x).1 (write directory d x).2 := by
  have hgrown := prepare_grown hfree directory ⟨x.root⟩
  unfold write
  dsimp only
  split
  · rename_i hprepare
    rw [hprepare] at hgrown
    exact .unwritten hgrown
  rename_i prepared hprepare
  rw [hprepare] at hgrown
  split
  · exact .unwritten hgrown
  rename_i written hwrite
  have hwritten := write_ok (hgrown.linkFree hfree) hwrite
  rw [place_temporary, place_congr hgrown.working_eq] at hwritten
  split
  · exact .unmoved hgrown hwritten
  rename_i moved hrename
  have hworking : written.working = d.working := hwritten.working_eq.trans hgrown.working_eq
  obtain ⟨hmoved, hfound⟩ := rename_ok hwritten.linkFree hrename
    (place_temporary written directory ⟨x.root⟩) (place_path written directory ⟨x.root⟩)
    fileName_ne_temporaryName.symm
  rw [place_congr hworking] at hmoved
  exact .moved hgrown hwritten hmoved hfound

theorem Persisted.working_eq (h : Persisted directory d x result d') : d'.working = d.working := by
  cases h with
  | unwritten grown => exact grown.working_eq
  | unmoved grown wrote => exact wrote.working_eq.trans grown.working_eq
  | moved grown wrote replaced found =>
    exact replaced.working_eq.trans (wrote.working_eq.trans grown.working_eq)

theorem Persisted.linkFree (hfree : d.tree.LinkFree) (h : Persisted directory d x result d') :
    d'.tree.LinkFree := by
  cases h with
  | unwritten grown => exact grown.linkFree hfree
  | unmoved grown wrote => exact wrote.linkFree
  | moved grown wrote replaced found => exact replaced.linkFree

theorem Persisted.isDirectoryAt (h : Persisted directory d x result d') (ns : List (List UInt8))
    (hns : d.tree.IsDirectoryAt ns) : d'.tree.IsDirectoryAt ns := by
  cases h with
  | unwritten grown => exact grown.keeps.directory ns hns
  | unmoved grown wrote => exact (grown.keeps.trans wrote.keeps).directory ns hns
  | moved grown wrote replaced found =>
    exact ((grown.keeps.trans wrote.keeps).trans replaced.keeps).directory ns hns

structure Kept (p : Path) (d d' : Disk) : Prop where
  there : d'.tree.at? (d.place p) = d.tree.at? (d.place p)
  item_eq : ∀ found, d.item p = .ok found → d'.item p = .ok found

theorem Persisted.at?_eq (h : Persisted directory d x (.error f) d')
    (hclear : Clear d directory ⟨x.root⟩) :
    d'.tree.at? (d.place (path directory ⟨x.root⟩)) =
      d.tree.at? (d.place (path directory ⟨x.root⟩)) := by
  cases h with
  | unwritten grown => exact hclear.at?_eq grown
  | unmoved grown wrote =>
    rw [← hclear.at?_eq grown, place_path]
    exact wrote.beside _ (not_prefix_beside fileName_ne_temporaryName.symm)
      (not_prefix_beside fileName_ne_temporaryName)

theorem Persisted.kept (hfree : d.tree.LinkFree) (h : Persisted directory d x (.error f) d')
    (hclear : Clear d directory ⟨x.root⟩) : Kept (path directory ⟨x.root⟩) d d' where
  there := h.at?_eq hclear
  item_eq found hfound := by
    obtain ⟨hplace, hi⟩ := item_ok hfree hfound
    rw [← h.at?_eq hclear] at hi
    exact item_of_item hfree (h.linkFree hfree) h.working_eq h.isDirectoryAt hi hfound

structure Replaced (p : Path) (content : List UInt8) (d d' : Disk) : Prop where
  there : d'.tree.at? (d.place p) = some (.file content)
  readBytes_eq : d'.readBytes p = .ok content
  gone : d'.tree.at? (d.place (temporary p)) = none
  hasEntry_temporary : d'.hasEntry (temporary p) = false
  others : ∀ ns old, d.tree.at? ns = some (.file old) → ns ≠ d.place p →
    ns ≠ d.place (temporary p) → d'.tree.at? ns = some (.file old)

theorem Persisted.replaced (h : Persisted directory d x (.ok q) d') :
    q = path directory ⟨x.root⟩ ∧ Replaced (path directory ⟨x.root⟩) (content x) d d' := by
  have hworking := h.working_eq
  cases h with
  | @moved prepared written moved grown wrote replaced found =>
    have hmoved : written.working = d.working := wrote.working_eq.trans grown.working_eq
    have hthere : d'.tree.at? (d.place (path directory ⟨x.root⟩)) = some (.file (content x)) := by
      rw [place_path, replaced.there, wrote.there]
    have hgone : d'.tree.at? (d.place (temporary (path directory ⟨x.root⟩))) = none := by
      rw [place_temporary, replaced.gone]
    have hitem : d'.find .target (path directory ⟨x.root⟩) =
        .ok (.item (d.place (path directory ⟨x.root⟩)) (.file (content x))) := by
      obtain ⟨target, htarget⟩ := found
      rw [← place_congr hmoved] at hthere ⊢
      exact find_of_find wrote.linkFree replaced.linkFree replaced.working_eq
        replaced.keeps.directory hthere (by decide) htarget
    refine ⟨rfl, hthere, ?_, hgone, ?_, ?_⟩
    · rw [readBytes, item, hitem]
    · rw [← place_congr hworking] at hgone
      exact hasEntry_eq_false replaced.linkFree hgone
    · intro ns old hold hpath htemporary
      rw [place_path] at hpath
      rw [place_temporary] at htemporary
      exact ((grown.keeps.trans wrote.keeps).trans replaced.keeps).file ns old hold
        (by simp [hpath, htemporary])

def writeAll (directory : Option Path) (d : Disk) (xs : List Digest) : Disk :=
  xs.foldl (fun d x => (write directory d x).2) d

def lastWritten (directory : Option Path) (d : Disk) : List Digest → Option Digest
  | [] => none
  | x :: xs =>
    (lastWritten directory (write directory d x).2 xs).or
      ((write directory d x).1.toOption.map fun _ => x)

theorem linkFree_writeAll (hfree : d.tree.LinkFree) (directory : Option Path) (xs : List Digest) :
    (writeAll directory d xs).tree.LinkFree := by
  induction xs generalizing d with
  | nil => exact hfree
  | cons x xs ih => exact ih ((persisted hfree directory x).linkFree hfree)

theorem Persisted.clear (h : Persisted directory d x result d')
    (hplace : d.place (path directory root) = d.place (path directory ⟨x.root⟩))
    (hclear : Clear d directory root) : Clear d' directory root := by
  unfold Clear
  rw [place_congr h.working_eq, stops_congr h.working_eq]
  rcases hclear with ⟨old, hold⟩ | hclear
  · left
    rw [hplace] at hold ⊢
    cases result with
    | error f => exact ⟨old, (h.at?_eq (.inl ⟨old, hold⟩)).trans hold⟩
    | ok q => exact ⟨content x, h.replaced.2.there⟩
  · exact .inr fun ns hns hbelow => h.isDirectoryAt ns (hclear ns hns hbelow)

theorem at?_writeAll {ns : List (List UInt8)} {xs : List Digest} (hfree : d.tree.LinkFree)
    (hplace : ∀ x ∈ xs, d.place (path directory ⟨x.root⟩) = ns)
    (hclear : ∀ x ∈ xs, Clear d directory ⟨x.root⟩) :
    (writeAll directory d xs).tree.at? ns =
      ((lastWritten directory d xs).map fun x => Item.file (content x)).or (d.tree.at? ns) := by
  induction xs generalizing d with
  | nil => rfl
  | cons x xs ih =>
    have hcall := persisted hfree directory x
    have hns := hplace x List.mem_cons_self
    have hrest := ih (hcall.linkFree hfree)
      (fun y hy => (place_congr hcall.working_eq _).trans
        (hplace y (List.mem_cons_of_mem x hy)))
      (fun y hy => hcall.clear ((hplace y (List.mem_cons_of_mem x hy)).trans hns.symm)
        (hclear y (List.mem_cons_of_mem x hy)))
    -- a later success comes first; without one the place holds what this call leaves
    rw [lastWritten, Option.map_or, Option.or_assoc]
    refine hrest.trans (congrArg _ ?_)
    cases hresult : (write directory d x).1 with
    | error f =>
      rw [hresult] at hcall
      rw [← hns]
      exact hcall.at?_eq (hclear x List.mem_cons_self)
    | ok q =>
      rw [hresult] at hcall
      rw [← hns]
      exact hcall.replaced.2.there

theorem write_replaces_or_keeps (hfree : d.tree.LinkFree) (directory : Option Path)
    (earlier : List Digest) :
    (∀ x p after, write directory (writeAll directory d earlier) x = (.ok p, after) →
      p = path directory ⟨x.root⟩ ∧
        Replaced p (content x) (writeAll directory d earlier) after) ∧
    (∀ x f after, write directory (writeAll directory d earlier) x = (.error f, after) →
      Clear (writeAll directory d earlier) directory ⟨x.root⟩ →
        Kept (path directory ⟨x.root⟩) (writeAll directory d earlier) after) ∧
    ∀ ns, (∀ x ∈ earlier, d.place (path directory ⟨x.root⟩) = ns) →
      (∀ x ∈ earlier, Clear d directory ⟨x.root⟩) →
        (writeAll directory d earlier).tree.at? ns =
          ((lastWritten directory d earlier).map fun x => Item.file (content x)).or
            (d.tree.at? ns) := by
  have hbefore := linkFree_writeAll hfree directory earlier
  refine ⟨?_, ?_, fun ns => at?_writeAll hfree⟩
  · intro x p after hwrite
    have hcall := persisted hbefore directory x
    rw [hwrite] at hcall
    obtain ⟨rfl, hreplaced⟩ := hcall.replaced
    exact ⟨rfl, hreplaced⟩
  · intro x f after hwrite hclear
    have hcall := persisted hbefore directory x
    rw [hwrite] at hcall
    exact hcall.kept hbefore hclear

def bare (root : String) : Digest := { Digest.empty with root }

def shelf (entries : List (List UInt8 × Item)) : Disk :=
  ⟨.directory [("p", .directory (entries ++ [(Text.Utf8.encode "q", .file [])]))], []⟩

def holding (name : List UInt8) (content : List UInt8) : Disk :=
  shelf [(".codebrief", .directory [(name, .file content)])]

theorem linkFree_shelf {entries : List (List UInt8 × Item)} (h : ∀ e ∈ entries, e.2.LinkFree) :
    (shelf entries).tree.LinkFree := by
  simpa [shelf, or_imp, forall_and] using h

theorem linkFree_holding (name : List UInt8) (content : List UInt8) :
    (holding name content).tree.LinkFree :=
  linkFree_shelf (by simp)

theorem write_shelf : write none (shelf []) (bare "/p") =
    (.ok (path none ⟨"/p"⟩), holding "project-context.json" (content (bare "/p"))) := by
  have hpath : path none ⟨"/p"⟩ = ⟨"/p/.codebrief/project-context.json"⟩ := by decide
  have hparent : (Path.mk "/p/.codebrief/project-context.json").parent? = some ⟨"/p/.codebrief"⟩ := by
    decide
  have htemporary : temporary ⟨"/p/.codebrief/project-context.json"⟩
      = ⟨"/p/.codebrief/project-context.json.tmp"⟩ := by decide
  have hmake : (shelf []).ensureDirectory ⟨"/p/.codebrief"⟩ =
      (.ok (), shelf [(".codebrief", .directory [])]) := by
    refine makeDirectories_of_made (by decide) ?_
    rw [makeDirectory, find_eq_seek (linkFree_shelf (by simp))]
    rfl
  have hwrite (c) : (shelf [(".codebrief", .directory [])]).write
      ⟨"/p/.codebrief/project-context.json.tmp"⟩ c = .ok (holding "project-context.json.tmp" c) := by
    rw [Disk.write, find_eq_seek (linkFree_shelf (by simp))]
    rfl
  have hrename (c) : (holding "project-context.json.tmp" c).rename
      ⟨"/p/.codebrief/project-context.json.tmp"⟩ ⟨"/p/.codebrief/project-context.json"⟩ =
        .ok (holding "project-context.json" c) := by
    simp only [rename, find_eq_seek (linkFree_holding "project-context.json.tmp" c)]
    rfl
  simp only [write, bare, hpath, prepare, hparent, hmake, htemporary, hwrite, hrename]
  rfl

theorem write_holding (name : List UInt8) (c : List UInt8) :
    write none (holding name c) (bare "/p/q/..") =
      (.error ⟨⟨"/p/q/../.codebrief"⟩, .system .notDirectory⟩, holding name c) := by
  have hpath : path none ⟨"/p/q/.."⟩ = ⟨"/p/q/../.codebrief/project-context.json"⟩ := by decide
  have hparent : (Path.mk "/p/q/../.codebrief/project-context.json").parent?
      = some ⟨"/p/q/../.codebrief"⟩ := by decide
  have hmake : (holding name c).ensureDirectory ⟨"/p/q/../.codebrief"⟩ =
      (.error (.system .notDirectory), holding name c) := by
    rw [ensureDirectory, makeDirectories]
    simp only [makeDirectory, isDirectory, item, find_eq_seek (linkFree_holding name c)]
    rfl
  simp only [write, bare, hpath, prepare, hparent, hmake]

theorem write_replaces_or_keeps_in_turn :
    (shelf []).tree.LinkFree ∧
      Replaced (path none ⟨"/p"⟩) (content (bare "/p")) (shelf [])
        (writeAll none (shelf []) [bare "/p"]) ∧
      Kept (path none ⟨"/p/q/.."⟩) (writeAll none (shelf []) [bare "/p"])
        (writeAll none (shelf []) [bare "/p", bare "/p/q/.."]) ∧
      (writeAll none (shelf []) [bare "/p", bare "/p/q/.."]).tree.at?
        ["p", ".codebrief", "project-context.json"] = some (.file (content (bare "/p"))) := by
  have hfree : (shelf []).tree.LinkFree := linkFree_shelf (by simp)
  have hfirst : writeAll none (shelf []) [bare "/p"] =
      holding "project-context.json" (content (bare "/p")) := congrArg Prod.snd write_shelf
  have hsecond : writeAll none (shelf []) [bare "/p", bare "/p/q/.."] =
      holding "project-context.json" (content (bare "/p")) :=
    (congrArg (fun d => (write none d (bare "/p/q/..")).2) hfirst).trans
      (congrArg Prod.snd (write_holding _ _))
  have hapart : ∀ x ∈ [bare "/p", bare "/p/q/.."], ∀ ns ∈ (shelf []).stops (home none ⟨x.root⟩),
      ¬ (shelf []).place (path none ⟨x.root⟩) <+: ns := by decide
  have hclear (x) (hx : x ∈ [bare "/p", bare "/p/q/.."]) : Clear (shelf []) none ⟨x.root⟩ :=
    clear_of_apart (hapart x hx)
  have hplace : ∀ x ∈ [bare "/p", bare "/p/q/.."], (shelf []).place (path none ⟨x.root⟩) =
      (["p", ".codebrief", "project-context.json"] : List (List UInt8)) := by decide
  have hlast : lastWritten none (shelf []) [bare "/p", bare "/p/q/.."] = some (bare "/p") := by
    rw [lastWritten, lastWritten, lastWritten, write_shelf, write_holding]
    rfl
  refine ⟨hfree, ?_, ?_, ?_⟩
  · obtain ⟨hok, -, -⟩ := write_replaces_or_keeps hfree none []
    rw [hfirst]
    exact (hok _ _ _ write_shelf).2
  · obtain ⟨-, herror, -⟩ := write_replaces_or_keeps hfree none [bare "/p"]
    have hsame := (hplace (bare "/p/q/..") (by simp)).trans (hplace (bare "/p") (by simp)).symm
    have hway : Clear (writeAll none (shelf []) [bare "/p"]) none ⟨(bare "/p/q/..").root⟩ :=
      (persisted hfree none (bare "/p")).clear hsame (hclear _ (by simp))
    rw [hfirst] at herror hway
    rw [hsecond, hfirst]
    exact herror _ _ _ (write_holding _ _) hway
  · obtain ⟨-, -, hheld⟩ := write_replaces_or_keeps hfree none [bare "/p", bare "/p/q/.."]
    rw [hheld _ hplace hclear, hlast]
    rfl

def placed (i : Item) (beside : List (List UInt8 × Item)) : Disk :=
  ⟨.directory [("x", .directory (("project-context.json", i) :: beside))], []⟩

theorem linkFree_placed {i : Item} {beside : List (List UInt8 × Item)} (hi : i.LinkFree)
    (h : ∀ e ∈ beside, e.2.LinkFree) : (placed i beside).tree.LinkFree := by
  simpa [placed, hi] using h

def filled : Item := .directory [("new", .emptyDirectory)]

theorem linkFree_filled : filled.LinkFree := by simp [filled, Item.emptyDirectory]

def through : Path := ⟨"/x/project-context.json/new/../.."⟩

theorem ensureDirectory_through :
    (placed .emptyDirectory []).ensureDirectory through = (.ok (), placed filled []) := by
  have hbefore : (placed .emptyDirectory []).tree.LinkFree :=
    linkFree_placed Item.linkFree_emptyDirectory (by simp)
  have hafter : (placed filled []).tree.LinkFree := linkFree_placed linkFree_filled (by simp)
  have hnew : (placed .emptyDirectory []).makeDirectory ⟨"/x/project-context.json/new"⟩ =
      .ok (placed filled []) := by
    rw [makeDirectory, find_eq_seek hbefore]
    rfl
  have hback : (placed .emptyDirectory []).makeDirectory ⟨"/x/project-context.json/new/.."⟩ =
      .error (.system .noEntry) := by
    rw [makeDirectory, find_eq_seek hbefore]
    rfl
  have hthrough : (placed .emptyDirectory []).makeDirectory through = .error (.system .noEntry) := by
    rw [makeDirectory, find_eq_seek hbefore]
    rfl
  have hback' : (placed filled []).makeDirectory ⟨"/x/project-context.json/new/.."⟩ =
      .error (.system .exists) := by
    rw [makeDirectory, find_eq_seek hafter]
    rfl
  have hthrough' : (placed filled []).makeDirectory through = .error (.system .exists) := by
    rw [makeDirectory, find_eq_seek hafter]
    rfl
  have hthere : (placed filled []).isDirectory ⟨"/x/project-context.json/new/.."⟩ = true := by
    rw [isDirectory, item, find_eq_seek hafter]
    rfl
  have hthere' : (placed filled []).isDirectory through = true := by
    rw [isDirectory, item, find_eq_seek hafter]
    rfl
  have hmade : makeDirectories 5 (placed .emptyDirectory []) ⟨"/x/project-context.json/new"⟩ =
      (.ok (), placed filled []) := makeDirectories_of_made (by decide) hnew
  have habove : makeDirectories 6 (placed .emptyDirectory []) ⟨"/x/project-context.json/new/.."⟩ =
      (.ok (), placed filled []) :=
    makeDirectories_of_above (by decide) hback (by decide) hmade hback' hthere
  exact makeDirectories_of_above (by decide) hthrough (by decide) habove hthrough' hthere'

theorem write_through (c : List UInt8) :
    (placed filled []).write ⟨"/x/project-context.json/new/../../project-context.json.tmp"⟩ c =
      .ok (placed filled [("project-context.json.tmp", .file c)]) := by
  rw [Disk.write, find_eq_seek (linkFree_placed linkFree_filled (by simp))]
  rfl

theorem rename_through (c : List UInt8) :
    (placed filled [("project-context.json.tmp", .file c)]).rename
      ⟨"/x/project-context.json/new/../../project-context.json.tmp"⟩
      ⟨"/x/project-context.json/new/../../project-context.json"⟩ = .error (.system .isDirectory) := by
  have hfree : (placed filled [("project-context.json.tmp", .file c)]).tree.LinkFree :=
    linkFree_placed linkFree_filled (by simp)
  simp only [rename, find_eq_seek hfree]
  rfl

theorem failed_write_fills_directory :
    (placed .emptyDirectory []).tree.LinkFree ∧
      (placed .emptyDirectory []).tree.at?
        ((placed .emptyDirectory []).place (path (some through) ⟨Digest.empty.root⟩)) =
          some (.directory []) ∧
      ∃ after, write (some through) (placed .emptyDirectory []) .empty =
          (.error ⟨path (some through) ⟨Digest.empty.root⟩, .system .isDirectory⟩, after) ∧
        after.tree.at?
          ((placed .emptyDirectory []).place (path (some through) ⟨Digest.empty.root⟩)) =
            some (.directory [("new", .directory [])]) := by
  have hpath : path (some through) ⟨Digest.empty.root⟩ =
      ⟨"/x/project-context.json/new/../../project-context.json"⟩ := by decide
  have hparent : (Path.mk "/x/project-context.json/new/../../project-context.json").parent?
      = some through := by decide
  have htemporary : temporary ⟨"/x/project-context.json/new/../../project-context.json"⟩
      = ⟨"/x/project-context.json/new/../../project-context.json.tmp"⟩ := by decide
  have hplace : (placed .emptyDirectory []).place
      ⟨"/x/project-context.json/new/../../project-context.json"⟩ =
        (["x", "project-context.json"] : List (List UInt8)) := by
    decide
  rw [hpath, hplace]
  refine ⟨linkFree_placed Item.linkFree_emptyDirectory (by simp), rfl,
    placed filled [("project-context.json.tmp", .file (content .empty))], ?_, rfl⟩
  simp only [write, hpath, prepare, hparent, ensureDirectory_through, htemporary, write_through,
    rename_through, content]

end SourceDigest.Snapshot
