import Mathlib.Data.List.Lex
import Mathlib.Data.List.Sort
import Mathlib.Data.Prod.Lex
import SourceDigest.Path

namespace SourceDigest

namespace Component

theorem name_lt_iff {a b : List UInt8} : a < b ↔ a.map UInt8.toNat < b.map UInt8.toNat := by
  induction a generalizing b with
  | nil => cases b <;> simp
  | cons x a ih =>
    cases b with
    | nil => simp
    | cons y b =>
      simp only [List.map_cons, List.cons_lt_cons_iff, ih, UInt8.lt_iff_toNat_lt, UInt8.toNat_inj]

theorem map_toNat_injective : Function.Injective (List.map UInt8.toNat) :=
  List.map_injective_iff.2 fun _ _ => UInt8.toNat_inj.1

def place (c : Component) : ℕ ×ₗ List ℕ := toLex (c.rank, (c.name?.getD []).map UInt8.toNat)

theorem place_injective : Function.Injective place := by
  intro a b h
  cases a <;> cases b <;> simp_all [place, rank, name?, map_toNat_injective.eq_iff]

theorem before_iff_place {a b : Component} : a.before b = true ↔ a.place < b.place := by
  cases a <;> cases b <;> simp [before, place, rank, name?, Prod.Lex.toLex_lt_toLex, name_lt_iff]

end Component

namespace Path

def places (p : Path) : List (ℕ ×ₗ List ℕ) := p.components.map Component.place

theorem places_eq_iff {p q : Path} : p.places = q.places ↔ p.components = q.components :=
  (List.map_injective_iff.2 Component.place_injective).eq_iff

theorem componentsBefore_iff_places (as bs : List Component) :
    componentsBefore as bs = true ↔ as.map Component.place < bs.map Component.place := by
  induction as generalizing bs with
  | nil => cases bs <;> simp [componentsBefore]
  | cons a as ih =>
    cases bs with
    | nil => simp [componentsBefore]
    | cons b bs =>
      simp only [componentsBefore, List.map_cons, List.cons_lt_cons_iff]
      split
      · rename_i h
        simp [h, ih]
      · rename_i h
        simp [Component.before_iff_place, Component.place_injective.ne h]

theorem before_iff_places {p q : Path} : p.before q = true ↔ p.places < q.places :=
  componentsBefore_iff_places p.components q.components

theorem before_irrefl (p : Path) : ¬ p.before p = true :=
  fun h => lt_irrefl p.places (before_iff_places.1 h)

theorem before_trans {p q r : Path} (h : p.before q = true) (h' : q.before r = true) :
    p.before r = true :=
  before_iff_places.2 ((before_iff_places.1 h).trans (before_iff_places.1 h'))

theorem before_of_not {p q : Path} (hne : ¬ p.same q = true) (h : ¬ p.before q = true) :
    q.before p = true := by
  rw [same_iff, ← places_eq_iff] at hne
  rw [before_iff_places] at h
  exact before_iff_places.2 (lt_of_le_of_ne (not_lt.1 h) (Ne.symm hne))

def Ascending (l : List Path) : Prop := l.Pairwise fun p q => p.before q = true

theorem ascending_iff_places {l : List Path} : Ascending l ↔ (l.map places).SortedLT := by
  simp only [Ascending, List.sortedLT_iff_pairwise, List.pairwise_map, before_iff_places]

theorem mem_places_iff {p : Path} {l : List Path} :
    p.places ∈ l.map places ↔ p.components ∈ l.map components := by
  simp only [List.mem_map, places_eq_iff]

theorem Ascending.components_eq {l l' : List Path} (h : Ascending l) (h' : Ascending l')
    (hmem : ∀ p : Path, p.components ∈ l.map components ↔ p.components ∈ l'.map components) :
    l.map components = l'.map components := by
  have hplaces : l.map places = l'.map places := by
    refine (ascending_iff_places.1 h).eq_of_mem_iff (ascending_iff_places.1 h') fun ps => ?_
    constructor
    · intro hps
      obtain ⟨p, hp, rfl⟩ := List.mem_map.1 hps
      exact mem_places_iff.2 ((hmem p).1 (List.mem_map_of_mem hp))
    · intro hps
      obtain ⟨p, hp, rfl⟩ := List.mem_map.1 hps
      exact mem_places_iff.2 ((hmem p).2 (List.mem_map_of_mem hp))
  refine List.map_injective_iff.2 (List.map_injective_iff.2 Component.place_injective) ?_
  rw [List.map_map, List.map_map]
  exact hplaces

end Path

end SourceDigest
