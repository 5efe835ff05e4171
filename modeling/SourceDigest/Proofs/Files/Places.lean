import SourceDigest.Proofs.Files.Tree
import SourceDigest.Proofs.Path.Components

namespace SourceDigest

namespace Component

def follow (here : List (List UInt8)) : Component → List (List UInt8)
  | .root => []
  | .current => here
  | .parent => here.dropLast
  | .normal n => here ++ [n]

end Component

namespace Path

variable {p : Path}

def steps (p : Path) : List Component := p.parts.filterMap Component.ofPart?

def opening (p : Path) : List Component :=
  if p.isAbsolute then [.root]
  else if p.parts.head? = some [dot] then [.current]
  else []

theorem components_eq_opening (p : Path) : p.components = p.opening ++ p.steps := by
  obtain ⟨first, rest, hp⟩ := p.parts_eq_cons
  simp only [components_eq hp, opening, steps, hp, List.head?_cons, Option.some.injEq, start]
  by_cases habs : p.isAbsolute = true
  · obtain ⟨rfl, -⟩ := (isAbsolute_iff hp).1 habs
    simp [habs, Component.ofPart?]
  · by_cases hdot : first = [dot]
    · subst hdot
      simp [habs, Component.ofPart?]
    · cases hfirst : Component.ofPart? first <;> simp [habs, hdot, hfirst]

theorem components_concat {cs : List Component} {c : Component} (h : p.steps = cs ++ [c]) :
    p.components = p.opening ++ cs ++ [c] := by
  rw [components_eq_opening, h, List.append_assoc]

end Path

namespace Files.Disk

variable {tree tree' : Item} {sought : Sought} {links : Nat} {here todo : List (List UInt8)}
  {found : Found} {n : List UInt8}

def place (d : Disk) (p : Path) : List (List UInt8) := p.components.foldl Component.follow d.working

theorem place_join (d : Disk) (p : Path) (h : (Component.normal n).IsPart n) :
    d.place (p.join n) = d.place p ++ [n] := by
  rw [place, Path.components_join h, List.foldl_append]
  rfl

theorem foldl_opening (d : Disk) (p : Path) :
    p.opening.foldl Component.follow d.working = d.start p := by
  unfold Path.opening start
  split
  · rfl
  · split <;> rfl

theorem place_eq_steps (d : Disk) (p : Path) :
    d.place p = p.steps.foldl Component.follow (d.start p) := by
  rw [place, Path.components_eq_opening, List.foldl_append, foldl_opening]

def stepName (here : List (List UInt8)) (n : List UInt8) : List (List UInt8) :=
  (Component.ofPart? n).elim here (Component.follow here)

def IsName (n : List UInt8) : Prop := Component.ofPart? n = some (.normal n)

instance (n : List UInt8) : Decidable (IsName n) :=
  inferInstanceAs (Decidable (Component.ofPart? n = some (.normal n)))

theorem stepName_of_isName (h : IsName n) : stepName here n = here ++ [n] := by
  rw [stepName, h]
  rfl

theorem IsName.not_idle (h : IsName n) : ¬ (n.isEmpty || decide (n = [dot])) = true := by
  intro hidle
  rw [Bool.or_eq_true, List.isEmpty_iff, decide_eq_true_eq] at hidle
  rcases hidle with rfl | rfl <;> cases h

theorem IsName.ne_parent (h : IsName n) : n ≠ [dot, dot] := by
  rintro rfl
  cases h

theorem dots_of_not_isName (h : ¬ IsName n) : n = [] ∨ n = [dot] ∨ n = [dot, dot] := by
  unfold IsName Component.ofPart? at h
  split at h
  · rename_i hidle
    exact hidle.imp_right .inl
  · split at h
    · rename_i hdots
      exact .inr (.inr hdots)
    · exact absurd rfl h

theorem foldl_stepName (here : List (List UInt8)) (names : List (List UInt8)) :
    names.foldl stepName here =
      (names.filterMap Component.ofPart?).foldl Component.follow here := by
  induction names generalizing here with
  | nil => rfl
  | cons n names ih =>
    rw [List.foldl_cons, ih, stepName]
    cases hn : Component.ofPart? n <;> simp [hn]

theorem filterMap_partsOf (p : Path) :
    ((partsOf p.bytes).filterMap Component.ofPart?) = p.steps := by
  have hslash : ∀ b : Bool,
      (if b then [[]] else []).filterMap Component.ofPart? = [] := by
    intro b
    cases b <;> rfl
  rw [partsOf, List.filterMap_append, hslash, List.append_nil, List.filterMap_filter]
  refine List.filterMap_congr fun part _ => ?_
  cases part with
  | nil => rfl
  | cons c part => simp

def partsFor (sought : Sought) (p : Path) : List (List UInt8) :=
  (partsOf p.bytes).filter fun n => sought != .newDirectory || !n.isEmpty

theorem filterMap_partsFor (sought : Sought) (p : Path) :
    ((partsFor sought p).filterMap Component.ofPart?) = p.steps := by
  rw [← filterMap_partsOf, partsFor, List.filterMap_filter]
  refine List.filterMap_congr fun n _ => ?_
  by_cases hn : n = []
  · subst hn
    cases sought <;> rfl
  · simp [hn]

theorem partsFor_of_ne (h : sought ≠ .newDirectory) (p : Path) :
    partsFor sought p = partsOf p.bytes := by
  simp [partsFor, h]

theorem foldl_partsFor (d : Disk) (sought : Sought) (p : Path) :
    (partsFor sought p).foldl stepName (d.start p) = d.place p := by
  rw [foldl_stepName, filterMap_partsFor, place_eq_steps]

end Files.Disk

namespace Files

def Found.place : Found → List (List UInt8)
  | .item ns _ => ns
  | .absent dir n => dir ++ [n]

def Found.HoldsIn (tree : Item) : Found → Prop
  | .item ns i => tree.at? ns = some i
  | .absent dir n =>
    ∃ entries, tree.at? dir = some (.directory entries) ∧ lookupEntry n entries = none

namespace Disk

variable {d d' : Disk} {p : Path} {tree tree' : Item} {sought : Sought} {links : Nat}
  {here todo dir ns : List (List UInt8)} {found : Found} {n : List UInt8} {i : Item}

inductive Reaches (tree : Item) : List (List UInt8) → List (List UInt8) → Found → Prop
  | arrived {ns : List (List UInt8)} {i : Item} (hi : tree.at? ns = some i) :
    Reaches tree ns [] (.item ns i)
  | missing {ns : List (List UInt8)} {n : List UInt8} {entries : List (List UInt8 × Item)}
    (hdir : tree.at? ns = some (.directory entries)) (hname : IsName n)
    (hlength : n.length ≤ maxNameBytes) (hn : lookupEntry n entries = none) :
    Reaches tree ns [n] (.absent ns n)
  | step {ns todo : List (List UInt8)} {n : List UInt8} {found : Found}
    (hdir : tree.IsDirectoryAt ns) (hlength : n.length ≤ maxNameBytes) (rest : Reaches tree (stepName ns n) todo found) :
    Reaches tree ns (n :: todo) found

theorem Reaches.exists_item (h : Reaches tree here todo found) : ∃ i, tree.at? here = some i := by
  cases h with
  | arrived hi => exact ⟨_, hi⟩
  | missing hdir => exact ⟨_, hdir⟩
  | step hdir => exact ⟨_, hdir.choose_spec⟩

theorem Reaches.place_eq (h : Reaches tree here todo found) :
    found.place = todo.foldl stepName here := by
  induction h with
  | arrived hi => rfl
  | missing hdir hname => exact (stepName_of_isName hname).symm
  | step hdir hlength rest ih => exact ih

theorem Reaches.holdsIn (h : Reaches tree here todo found) : found.HoldsIn tree := by
  induction h with
  | arrived hi => exact hi
  | missing hdir hname hlength hn => exact ⟨_, hdir, hn⟩
  | step hdir hlength rest ih => exact ih

theorem Reaches.last_eq (h : Reaches tree here todo found) (hf : found = .absent dir n) :
    IsName n ∧ ∃ front, todo = front ++ [n] := by
  induction h with
  | arrived hi => cases hf
  | missing hdir hname =>
    cases hf
    exact ⟨hname, [], rfl⟩
  | step hdir hlength rest ih =>
    obtain ⟨hname, front, rfl⟩ := ih hf
    exact ⟨hname, _ :: front, rfl⟩

theorem Reaches.mono (h : Reaches tree here todo found)
    (hkept : ∀ ns, tree.IsDirectoryAt ns → tree'.IsDirectoryAt ns)
    (hi : tree'.at? found.place = some i) : Reaches tree' here todo (.item found.place i) := by
  induction h with
  | arrived _ => exact .arrived hi
  | missing hdir hname hlength =>
    refine .step (hkept _ ⟨_, hdir⟩) hlength ?_
    rw [stepName_of_isName hname]
    exact .arrived hi
  | step hdir hlength rest ih => exact .step (hkept _ hdir) hlength (ih hi)

def pursue (tree : Item) (sought : Sought) (here : List (List UInt8)) :
    List (List UInt8) → Except Errno Found
  | [] =>
    match tree.at? here with
    | some i => .ok (.item here i)
    | none => .error .noEntry
  | n :: rest =>
    match tree.at? here with
    | some (.directory entries) =>
      if IsName n then
        if sought = .newFile && rest = [[]] then .error .isDirectory
        else if maxNameBytes < n.length then .error .nameTooLong
        else
          match lookupEntry n entries with
          | none => if rest.isEmpty then .ok (.absent here n) else .error .noEntry
          | some _ => pursue tree sought (here ++ [n]) rest
      else pursue tree sought (stepName here n) rest
    | some _ => .error .notDirectory
    | none => .error .noEntry

theorem walk_eq_pursue (hfree : tree.LinkFree) :
    walk tree sought links here todo = pursue tree sought here todo := by
  induction todo generalizing here with
  | nil =>
    rw [walk]
    rfl
  | cons n rest ih =>
    rw [walk, pursue]
    cases hhere : tree.at? here with
    | none => rfl
    | some i =>
      cases i with
      | file content => rfl
      | link target => rfl
      | directory entries =>
        dsimp only
        rw [ih, ih, ih]
        by_cases hname : IsName n
        case neg =>
          rw [if_neg hname]
          rcases dots_of_not_isName hname with rfl | rfl | rfl <;> rfl
        rw [if_pos hname, if_neg hname.not_idle, if_neg hname.ne_parent]
        cases hn : lookupEntry n entries with
        | none => rfl
        | some j =>
          cases j with
          | file content => rfl
          | link target => cases (hfree.at? hhere).entry hn
          | directory entries => rfl

theorem size_le_of_not_isName (h : ¬ IsName n) : n.length ≤ maxNameBytes := by
  rcases dots_of_not_isName h with rfl | rfl | rfl <;> decide

theorem reaches_of_pursue (h : pursue tree sought here todo = .ok found) :
    Reaches tree here todo found := by
  fun_induction pursue tree sought here todo
  case case1 hi =>
    cases h
    exact .arrived hi
  case case5 hhere hname _ hlength hmissing hlast =>
    cases h
    rw [List.isEmpty_iff.1 hlast]
    exact .missing hhere hname (Nat.not_lt.1 hlength) hmissing
  case case7 hhere hname _ hlength _ _ ih =>
    refine .step ⟨_, hhere⟩ (Nat.not_lt.1 hlength) ?_
    rw [stepName_of_isName hname]
    exact ih h
  case case8 hhere hname ih => exact .step ⟨_, hhere⟩ (size_le_of_not_isName hname) (ih h)
  all_goals cases h

theorem pursue_of_reaches (hs : sought ≠ .newFile) (h : Reaches tree here todo found) :
    pursue tree sought here todo = .ok found := by
  have hnew : ∀ b : Bool, ¬ (decide (sought = .newFile) && b) = true := by simp [hs]
  induction h with
  | arrived hi => rw [pursue, hi]
  | missing hdir hname hlength hn =>
    simp only [pursue, hdir]
    rw [if_pos hname, if_neg (hnew _), if_neg (Nat.not_lt.2 hlength), hn]
    rfl
  | @step ns todo n found hdir hlength rest ih =>
    obtain ⟨entries, hentries⟩ := hdir
    simp only [pursue, hentries]
    by_cases hname : IsName n
    case neg => rwa [if_neg hname]
    rw [stepName_of_isName hname] at rest ih
    obtain ⟨i, hi⟩ := rest.exists_item
    rw [Item.at?_concat hentries] at hi
    rw [if_pos hname, if_neg (hnew _), if_neg (Nat.not_lt.2 hlength), hi]
    exact ih

def seek (d : Disk) (sought : Sought) (p : Path) : Except Cause Found :=
  if p.bytes.contains 0 then .error .nul
  else if p.bytes.isEmpty then .error (.system .noEntry)
  else if maxPathBytes < p.bytes.length then .error (.system .nameTooLong)
  else
    match pursue d.tree sought (d.start p) (partsFor sought p) with
    | .error e => .error (.system e)
    | .ok f => .ok f

theorem find_eq_seek (hfree : d.tree.LinkFree) (sought : Sought) (p : Path) :
    d.find sought p = d.seek sought p := by
  simp only [find, walk_eq_pursue hfree]
  rfl

theorem reaches_of_find (hfree : d.tree.LinkFree) (h : d.find sought p = .ok found) :
    Reaches d.tree (d.start p) (partsFor sought p) found := by
  rw [find_eq_seek hfree, seek] at h
  split at h
  · cases h
  split at h
  · cases h
  split at h
  · cases h
  split at h
  · cases h
  · rename_i hpursue
    cases h
    exact reaches_of_pursue hpursue

theorem place_of_find (hfree : d.tree.LinkFree) (h : d.find sought p = .ok found) :
    found.place = d.place p := by
  rw [(reaches_of_find hfree h).place_eq, foldl_partsFor]

theorem find_of_find (hfree : d.tree.LinkFree) (hfree' : d'.tree.LinkFree)
    (hworking : d'.working = d.working)
    (hkept : ∀ ns, d.tree.IsDirectoryAt ns → d'.tree.IsDirectoryAt ns)
    (hi : d'.tree.at? (d.place p) = some i) (hs : sought ≠ .newDirectory)
    (h : d.find sought p = .ok found) : d'.find .target p = .ok (.item (d.place p) i) := by
  have hreaches := reaches_of_find hfree h
  have hplace := place_of_find hfree h
  have hstart : d'.start p = d.start p := by rw [start, start, hworking]
  rw [← hplace] at hi ⊢
  have hpursue : pursue d'.tree .target (d'.start p) (partsFor .target p)
      = .ok (.item found.place i) := by
    refine pursue_of_reaches (by decide) ?_
    rw [partsFor_of_ne (by decide), ← partsFor_of_ne hs, hstart]
    exact hreaches.mono hkept hi
  rw [find_eq_seek hfree, seek] at h
  rw [find_eq_seek hfree', seek]
  split at h
  · cases h
  rename_i hnul
  split at h
  · cases h
  rename_i hempty
  split at h
  · cases h
  rename_i hlong
  rw [if_neg hnul, if_neg hempty, if_neg hlong, hpursue]

theorem find_of_item {found : List (List UInt8) × Item} (h : d.item p = .ok found) :
    d.find .target p = .ok (.item found.1 found.2) := by
  unfold item at h
  split at h
  · cases h
  · cases h
  · cases h
    assumption

theorem item_ok {found : List (List UInt8) × Item} (hfree : d.tree.LinkFree)
    (h : d.item p = .ok found) :
    found.1 = d.place p ∧ d.tree.at? (d.place p) = some found.2 := by
  have hfind := find_of_item h
  have hplace : found.1 = d.place p := place_of_find hfree hfind
  exact ⟨hplace, hplace ▸ (reaches_of_find hfree hfind).holdsIn⟩

theorem item_of_item {found : List (List UInt8) × Item} (hfree : d.tree.LinkFree)
    (hfree' : d'.tree.LinkFree) (hworking : d'.working = d.working)
    (hkept : ∀ ns, d.tree.IsDirectoryAt ns → d'.tree.IsDirectoryAt ns)
    (hi : d'.tree.at? (d.place p) = some found.2) (h : d.item p = .ok found) :
    d'.item p = .ok found := by
  have hfind := find_of_find hfree hfree' hworking hkept hi (by decide) (find_of_item h)
  rw [← (item_ok hfree h).1] at hfind
  rw [item, hfind]

theorem hasEntry_eq_false (hfree : d.tree.LinkFree) (h : d.tree.at? (d.place p) = none) :
    d.hasEntry p = false := by
  unfold hasEntry
  cases hitem : d.item p with
  | error c => rfl
  | ok found =>
    rw [(item_ok hfree hitem).2] at h
    cases h

end Disk

end Files

end SourceDigest
