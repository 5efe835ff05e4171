import SourceDigest.Files.Disk
import SourceDigest.Proofs.Scan.Entries

namespace SourceDigest

open Files (Disk Memory System)

namespace Scan

variable {system : System} {root e : Path} {entries : List Path}

def escapes (root e : Path) : Bool :=
  (Path.stripBase? root (resolveEntry root e)).all (·.contains .parent)

theorem escapes_eq_false_iff :
    escapes root e = false ↔
      ∃ rest, (resolveEntry root e).components = root.components ++ rest ∧ .parent ∉ rest := by
  simp only [← Path.stripBase?_eq_some_iff, escapes]
  cases Path.stripBase? root (resolveEntry root e) <;> simp

theorem escapes_of_relative (hrelative : e.isAbsolute = false) (he : e.climbs = false) :
    escapes root e = false := by
  have hparent : .parent ∉ e.components := by
    intro hmem
    rw [Path.climbs, List.contains_iff_mem.2 hmem] at he
    cases he
  rw [escapes_eq_false_iff, resolveEntry, if_neg (Bool.eq_false_iff.1 hrelative)]
  by_cases hempty : root.bytes = []
  · refine ⟨e.components, ?_, hparent⟩
    rw [Path.components_eq_nil_iff.2 hempty, List.nil_append, Path.join,
      if_neg (Path.isAbsolute_eq_false_iff.1 hrelative), if_pos (Or.inl hempty), hempty,
      List.nil_append]
  · exact ⟨_, Path.components_join_relative hrelative hempty,
      fun hmem => hparent (List.mem_of_mem_filter hmem)⟩

def refuses (root e : Path) : Bool := escapes root e || root.climbs

theorem refuses_iff :
    refuses root e = true ↔
      ((resolveEntry root e).climbs || !(resolveEntry root e).startsWith root) = true := by
  unfold refuses
  by_cases hstarts : (resolveEntry root e).startsWith root = true
  · obtain ⟨rest, hrest⟩ := List.isPrefixOf_iff_prefix.1 hstarts
    have hstrip : Path.stripBase? root (resolveEntry root e) = some rest :=
      Path.stripBase?_eq_some_iff.2 hrest.symm
    simp [escapes, hstrip, hstarts, Path.climbs, ← hrest, or_comm]
  · have hstrip : Path.stripBase? root (resolveEntry root e) = none := if_neg hstarts
    simp [escapes, hstrip, hstarts]

def Present (system : System) (p : Path) : Prop := ∃ b, system.isDirectory p = .ok b

theorem present_memory_iff {m : Memory} {p : Path} :
    Present m.system p ↔ m.hasEntry p = true := by
  show (∃ b, m.isDirectory p = .ok b) ↔ _
  unfold Memory.isDirectory Memory.hasEntry
  cases m.hasDirectory p <;> cases (m.file? p).isSome <;> simp

theorem present_disk_iff {d : Disk} {p : Path} : Present d.system p ↔ d.hasEntry p = true := by
  show (∃ b, ((d.item p).map fun x => x.2.isDirectory).mapError _ = .ok b) ↔ _
  unfold Disk.hasEntry
  cases d.item p <;> simp [Except.map, Except.mapError, Except.toOption]

theorem filesOfEntry_of_refuses (options : Options) (h : refuses root e = true) :
    filesOfEntry system options root (resolveEntry root e) =
      .error (.outsideRoot (resolveEntry root e)) := by
  unfold filesOfEntry
  rw [if_pos (refuses_iff.1 h)]

theorem filesOfEntry_of_present (options : Options) (h : refuses root e = false)
    (hpresent : Present system (resolveEntry root e)) :
    ∃ files, filesOfEntry system options root (resolveEntry root e) = .ok files := by
  obtain ⟨b, hb⟩ := hpresent
  have hadmitted := mt refuses_iff.2 (Bool.eq_false_iff.1 h)
  unfold filesOfEntry
  rw [if_neg hadmitted, hb]
  cases b with
  | true => exact ⟨_, (apply_ite Except.ok _ _ _).symm⟩
  | false => exact ⟨_, (apply_ite Except.ok _ _ _).symm⟩

section Entries

variable (options : Options)
  (hpresent : ∀ e ∈ entries, escapes root e = false → Present system (resolveEntry root e))
  (found : List Path)

include hpresent

theorem filesOfEntries_of_refuses (h : ∃ e ∈ entries, refuses root e = true) :
    ∃ p, filesOfEntries system options root entries found = .error (.outsideRoot p) := by
  induction entries generalizing found with
  | nil =>
    obtain ⟨e, he, -⟩ := h
    cases he
  | cons e entries ih =>
    rw [filesOfEntries_cons]
    cases hrefuses : refuses root e with
    | true => exact ⟨_, by rw [filesOfEntry_of_refuses options hrefuses]⟩
    | false =>
      obtain ⟨files, hfiles⟩ := filesOfEntry_of_present options hrefuses
        (hpresent e List.mem_cons_self (Bool.or_eq_false_iff.1 hrefuses).1)
      have hlater : ∃ d ∈ entries, refuses root d = true := by
        obtain ⟨d, hd, hrefuses'⟩ := h
        rcases List.mem_cons.1 hd with rfl | hd
        · exact absurd hrefuses' (Bool.eq_false_iff.1 hrefuses)
        · exact ⟨d, hd, hrefuses'⟩
      obtain ⟨p, hp⟩ := ih (fun d hd => hpresent d (List.mem_cons_of_mem e hd))
        (insertPaths files.value found) hlater
      rw [hfiles]
      simp only [hp]
      exact ⟨p, rfl⟩

theorem filesOfEntries_of_present (h : ∀ e ∈ entries, refuses root e = false) :
    ∃ files, filesOfEntries system options root entries found = .ok files := by
  induction entries generalizing found with
  | nil => exact ⟨⟨found, []⟩, rfl⟩
  | cons e entries ih =>
    have he := h e List.mem_cons_self
    obtain ⟨files, hfiles⟩ := filesOfEntry_of_present options he
      (hpresent e List.mem_cons_self (Bool.or_eq_false_iff.1 he).1)
    obtain ⟨rest, hrest⟩ := ih (fun d hd => hpresent d (List.mem_cons_of_mem e hd))
      (insertPaths files.value found) fun d hd => h d (List.mem_cons_of_mem e hd)
    rw [filesOfEntries_cons, hfiles]
    simp only [hrest]
    exact ⟨_, rfl⟩

end Entries

theorem discoverEntries_of_error {options : Options} {error : Error}
    (hroot : checkRoot system root = .ok ())
    (h : filesOfEntries system options root entries [] = .error error) :
    discoverEntries system options root entries = .error error := by
  unfold discoverEntries
  rw [hroot]
  simp only [h]

theorem discoverEntries_outsideRoot_iff (options : Options) (hroot : checkRoot system root = .ok ())
    (hpresent : ∀ e ∈ entries, escapes root e = false → Present system (resolveEntry root e)) :
    ((∃ p, discoverEntries system options root entries = .error (.outsideRoot p)) ↔
        ∃ e ∈ entries, escapes root e = true ∨ root.climbs = true) ∧
      (root.climbs = false → (∀ e ∈ entries, escapes root e = false) →
        ∃ files, discoverEntries system options root entries = .ok files) ∧
      ∀ e : Path, e.isAbsolute = false → e.climbs = false → escapes root e = false := by
  have hrefuses : (∃ e ∈ entries, escapes root e = true ∨ root.climbs = true) ↔
      ∃ e ∈ entries, refuses root e = true := by
    simp only [refuses, Bool.or_eq_true]
  have hadmitted : (∀ e ∈ entries, refuses root e = false) →
      ∃ files, discoverEntries system options root entries = .ok files := by
    intro h
    obtain ⟨files, hfiles⟩ := filesOfEntries_of_present options hpresent [] h
    exact ⟨_, discoverEntries_of_checkRoot_ok hroot hfiles⟩
  refine ⟨?_, fun hclimbs h => hadmitted fun e he => ?_, fun e => escapes_of_relative⟩
  · rw [hrefuses]
    constructor
    · rintro ⟨p, hp⟩
      by_contra hnone
      obtain ⟨files, hfiles⟩ := hadmitted fun e he =>
        Bool.eq_false_iff.2 fun h => hnone ⟨e, he, h⟩
      rw [hfiles] at hp
      cases hp
    · intro h
      obtain ⟨p, hp⟩ := filesOfEntries_of_refuses options hpresent [] h
      exact ⟨p, discoverEntries_of_error hroot hp⟩
  · rw [refuses, h e he, hclimbs]
    rfl

def siblingTree : Memory := ⟨[(⟨"/p/a.ts"⟩, "x"), (⟨"/q/b.ts"⟩, "y")], []⟩

theorem discoverEntries_outsideRoot_siblingTree :
    checkRoot siblingTree.system ⟨"/p"⟩ = .ok () ∧
      (∀ e ∈ [⟨"./a.ts"⟩, ⟨"a.ts/../../q"⟩], escapes ⟨"/p"⟩ e = false →
        Present siblingTree.system (resolveEntry ⟨"/p"⟩ e)) ∧
      ∃ p, discoverEntries siblingTree.system .default ⟨"/p"⟩ [⟨"./a.ts"⟩, ⟨"a.ts/../../q"⟩] =
        .error (.outsideRoot p) := by
  have hroot : checkRoot siblingTree.system ⟨"/p"⟩ = .ok () :=
    checkRoot_of_readable (by decide) rfl
  have hpresent : ∀ e ∈ [⟨"./a.ts"⟩, ⟨"a.ts/../../q"⟩], escapes ⟨"/p"⟩ e = false →
      Present siblingTree.system (resolveEntry ⟨"/p"⟩ e) := by
    simp only [present_memory_iff]
    decide
  exact ⟨hroot, hpresent, ((discoverEntries_outsideRoot_iff .default hroot hpresent).1).2
    ⟨⟨"a.ts/../../q"⟩, by simp, Or.inl (by decide)⟩⟩

def climbingTree : Memory := ⟨[(⟨"../p/a.ts"⟩, "x")], []⟩

theorem outsideRoot_climbingTree :
    checkRoot climbingTree.system ⟨"../p"⟩ = .ok () ∧ (⟨"a.ts"⟩ : Path).isAbsolute = false ∧
      (⟨"a.ts"⟩ : Path).climbs = false ∧ escapes ⟨"../p"⟩ ⟨"a.ts"⟩ = false ∧
      Present climbingTree.system (resolveEntry ⟨"../p"⟩ ⟨"a.ts"⟩) ∧
      discoverEntries climbingTree.system .default ⟨"../p"⟩ [⟨"a.ts"⟩] =
        .error (.outsideRoot ⟨"../p/a.ts"⟩) := by
  refine ⟨checkRoot_of_readable (by decide) rfl, by decide, by decide, by decide, ?_, by decide⟩
  rw [present_memory_iff]
  decide

end Scan

end SourceDigest
