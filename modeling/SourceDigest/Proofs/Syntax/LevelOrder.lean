import Mathlib.Data.Nat.Find
import SourceDigest.Proofs.Syntax.Traversal

namespace SourceDigest.Syntax.Node

def level : Nat → Node → List Node
  | 0, n => [n]
  | depth + 1, n => n.children.flatMap (level depth)

theorem level_succ (depth : Nat) (n : Node) :
    level (depth + 1) n = (level depth n).flatMap children := by
  induction depth generalizing n with
  | zero => simp [level]
  | succ depth ih =>
    rw [level, level, List.flatMap_assoc]
    exact List.flatMap_congr fun c _ => ih c

theorem mem_level_iff {depth : Nat} {n m : Node} :
    m ∈ level depth n ↔ ∃ a, a.length = depth ∧ n.at? a = some m := by
  induction depth generalizing n with
  | zero => simp [level, at?, eq_comm]
  | succ depth ih =>
    rw [level, List.mem_flatMap]
    constructor
    · rintro ⟨c, hc, hm⟩
      obtain ⟨a, rfl, ha⟩ := ih.1 hm
      obtain ⟨i, hi⟩ := List.getElem?_of_mem hc
      exact ⟨i :: a, rfl, by rw [at?, hi, Option.bind_some, ha]⟩
    · rintro ⟨a, hlength, ha⟩
      obtain ⟨i, b, rfl⟩ := List.exists_cons_of_length_eq_add_one hlength
      rw [at?, Option.bind_eq_some_iff] at ha
      obtain ⟨c, hc, hb⟩ := ha
      exact ⟨c, List.mem_of_getElem? hc, ih.2 ⟨b, Nat.succ.inj hlength, hb⟩⟩

theorem level_eq_nil {depth : Nat} {n : Node} (h : n.size ≤ depth) : level depth n = [] := by
  induction depth generalizing n with
  | zero =>
    rw [size_eq] at h
    omega
  | succ depth ih =>
    rw [level, List.flatMap_eq_nil_iff]
    intro c hc
    have hsize := size_lt_of_mem hc
    exact ih (by omega)

def isHeld (field : String) (m : Node) : Bool := m.field == some field

theorem isHeld_iff {field : String} {m : Node} : isHeld field m = true ↔ m.field = some field :=
  beq_iff_eq

section Levels

variable {field : String} {n m : Node} {depth : Nat}

theorem find?_level_eq_none_iff :
    (level depth n).find? (isHeld field) = none ↔
      ∀ a m, a.length = depth → n.at? a = some m → m.field ≠ some field := by
  simp only [List.find?_eq_none, mem_level_iff, isHeld_iff]
  constructor
  · intro h a m hlength ha
    exact h m ⟨a, hlength, ha⟩
  · rintro h m ⟨a, hlength, ha⟩
    exact h a m hlength ha

theorem exists_leftmost (h : (level depth n).find? (isHeld field) = some m) :
    ∃ a, a.length = depth ∧ n.at? a = some m ∧
      ∀ b d, b.length = depth → n.at? b = some d → d.field = some field → a = b ∨ a < b := by
  induction depth generalizing n with
  | zero =>
    obtain rfl := List.mem_singleton.1 (List.mem_of_find?_eq_some h)
    refine ⟨[], rfl, rfl, ?_⟩
    intro b d hlength _ _
    exact Or.inl (List.eq_nil_of_length_eq_zero hlength).symm
  | succ depth ih =>
    rw [level, List.find?_flatMap, List.findSome?_eq_some_iff] at h
    obtain ⟨passed, c, rest, hchildren, hc, hpassed⟩ := h
    obtain ⟨a, hlength, ha, hleft⟩ := ih hc
    have hat : n.children[passed.length]? = some c := by simp [hchildren]
    refine ⟨passed.length :: a, by rw [List.length_cons, hlength], ?_, ?_⟩
    · rw [at?, hat, Option.bind_some, ha]
    · intro b d hdeep hb hd
      obtain ⟨j, b, rfl⟩ := List.exists_cons_of_length_eq_add_one hdeep
      rw [at?, Option.bind_eq_some_iff] at hb
      obtain ⟨x, hx, hb⟩ := hb
      have hdepth : b.length = depth := Nat.succ.inj hdeep
      rcases Nat.lt_trichotomy j passed.length with hj | rfl | hj
      · -- Such a node would have been found further left.
        rw [hchildren, List.getElem?_append_left hj] at hx
        have hnone := hpassed x (List.mem_of_getElem? hx)
        exact absurd hd (find?_level_eq_none_iff.1 hnone b d hdepth hb)
      · obtain rfl : c = x := Option.some.inj (hat.symm.trans hx)
        rcases hleft b d hdepth hb hd with rfl | hlt
        · exact Or.inl rfl
        · exact Or.inr (List.cons_lt_cons_iff.2 (Or.inr ⟨rfl, hlt⟩))
      · exact Or.inr (List.cons_lt_cons_iff.2 (Or.inl hj))

end Levels

section Queue

variable {field : String} {n m : Node}

inductive Search (field : String) : Nat → List Node → Option Node → Prop
  | empty : Search field 0 [] none
  | found {n : Node} {queue : List Node} (held : n.field = some field) :
    Search field 1 (n :: queue) (some n)
  | passed {turns : Nat} {n : Node} {queue : List Node} {result : Option Node}
    (other : n.field ≠ some field) (rest : Search field turns (queue ++ n.children) result) :
    Search field (turns + 1) (n :: queue) result

theorem exists_search (field : String) {fuel : Nat} {queue : List Node} (h : sizeAll queue ≤ fuel) :
    ∃ turns ≤ sizeAll queue, Search field turns queue (searchQueue field fuel queue) := by
  induction fuel generalizing queue with
  | zero =>
    cases queue with
    | nil => exact ⟨0, Nat.zero_le _, .empty⟩
    | cons n queue =>
      rw [sizeAll, size_eq] at h
      omega
  | succ fuel ih =>
    cases queue with
    | nil => exact ⟨0, Nat.zero_le _, .empty⟩
    | cons n queue =>
      rw [sizeAll, size_eq] at h
      rw [searchQueue, sizeAll, size_eq]
      split
      case isTrue hheld => exact ⟨1, by omega, .found hheld⟩
      case isFalse hother =>
        have hsize : sizeAll (queue ++ n.children) ≤ fuel := by
          rw [sizeAll_append]
          omega
        obtain ⟨turns, hturns, hsearch⟩ := ih hsize
        rw [sizeAll_append] at hturns
        exact ⟨turns + 1, by omega, .passed hother hsearch⟩

theorem searchQueue_append (field : String) (fuel : Nat) (ns queue : List Node) :
    searchQueue field (fuel + ns.length) (ns ++ queue) =
      (ns.find? (isHeld field)).or (searchQueue field fuel (queue ++ ns.flatMap children)) := by
  induction ns generalizing queue with
  | nil => simp
  | cons n ns ih =>
    rw [List.cons_append, List.length_cons, ← Nat.add_assoc, searchQueue]
    split
    case isTrue hheld => rw [List.find?_cons_of_pos (isHeld_iff.2 hheld), Option.some_or]
    case isFalse hother =>
      rw [List.append_assoc, ih, List.find?_cons_of_neg (mt isHeld_iff.1 hother),
        List.append_assoc, List.flatMap_cons]

theorem sizeAll_eq (ns : List Node) : sizeAll ns = sizeAll (ns.flatMap children) + ns.length := by
  induction ns with
  | nil => rfl
  | cons n ns ih =>
    rw [sizeAll, size_eq, List.flatMap_cons, sizeAll_append, List.length_cons]
    omega

def searchFrom (field : String) (n : Node) (depth : Nat) : Option Node :=
  searchQueue field (sizeAll (level depth n)) (level depth n)

theorem searchFrom_eq (field : String) (n : Node) (depth : Nat) :
    searchFrom field n depth =
      ((level depth n).find? (isHeld field)).or (searchFrom field n (depth + 1)) := by
  have hstep := searchQueue_append field (sizeAll (level (depth + 1) n)) (level depth n) []
  rw [List.append_nil, List.nil_append, ← level_succ] at hstep
  rw [searchFrom, sizeAll_eq, ← level_succ, hstep]
  rfl

theorem findField?_eq_searchFrom (n : Node) (field : String) :
    n.findField? field = searchFrom field n 1 := by
  have hlevel : level 1 n = n.children := by simp [level]
  rw [findField?, searchFrom, hlevel]
  exact searchQueue_eq_of_le field _ (by rw [size_eq]; omega) (Nat.le_refl _)

theorem findField?_eq_of_passed {k : Nat}
    (h : ∀ j < k, (level (j + 1) n).find? (isHeld field) = none) :
    n.findField? field = searchFrom field n (k + 1) := by
  induction k with
  | zero => exact findField?_eq_searchFrom n field
  | succ k ih =>
    have hbefore : n.findField? field = searchFrom field n (k + 1) :=
      ih fun j hj => h j (Nat.lt_succ_of_lt hj)
    rw [hbefore, searchFrom_eq, h k (Nat.lt_succ_self k), Option.none_or]

theorem findField?_eq_some_of_level {k : Nat}
    (hpassed : ∀ j < k, (level (j + 1) n).find? (isHeld field) = none)
    (hfound : (level (k + 1) n).find? (isHeld field) = some m) : n.findField? field = some m := by
  rw [findField?_eq_of_passed hpassed, searchFrom_eq, hfound, Option.some_or]

theorem findField?_eq_none_of_levels
    (h : ∀ k, (level (k + 1) n).find? (isHeld field) = none) : n.findField? field = none := by
  rw [findField?_eq_of_passed fun j (_ : j < n.size) => h j, searchFrom,
    level_eq_nil (Nat.le_succ _)]
  rfl

end Queue

structure HoldsAt (n : Node) (field : String) (a : List Nat) (m : Node) : Prop where
  below : a ≠ []
  reached : n.at? a = some m
  held : m.field = some field

def Precedes (a b : List Nat) : Prop := a.length < b.length ∨ a.length = b.length ∧ a < b

theorem Precedes.asymm {a b : List Nat} (h : Precedes a b) : ¬ Precedes b a := by
  rintro (hshort | ⟨hlength, hlt⟩)
  · rcases h with h | ⟨h, -⟩ <;> omega
  · rcases h with h | ⟨-, h⟩
    · omega
    · exact List.lt_asymm h hlt

structure HoldsFirst (n : Node) (field : String) (a : List Nat) (m : Node) : Prop
    extends HoldsAt n field a m where
  first : ∀ b d, HoldsAt n field b d → a = b ∨ Precedes a b

section First

variable {field : String} {n m d : Node} {a b : List Nat}

theorem HoldsFirst.unique (h : HoldsFirst n field a m) (h' : HoldsFirst n field b d) : m = d := by
  have hab : a = b := by
    rcases h.first b d h'.toHoldsAt with hab | hab
    · exact hab
    · rcases h'.first a m h.toHoldsAt with hba | hba
      · exact hba.symm
      · exact absurd hba hab.asymm
  subst hab
  exact Option.some.inj (h.reached.symm.trans h'.reached)

theorem exists_level_of_holdsAt (h : HoldsAt n field a m) :
    ∃ k, (level (k + 1) n).find? (isHeld field) ≠ none := by
  obtain ⟨i, a, rfl⟩ := List.exists_cons_of_ne_nil h.below
  refine ⟨a.length, fun hnone => ?_⟩
  exact find?_level_eq_none_iff.1 hnone _ m rfl h.reached h.held

theorem exists_holdsFirst (h : HoldsAt n field a m) :
    ∃ b d, HoldsFirst n field b d ∧ n.findField? field = some d := by
  classical
  have hlevel := exists_level_of_holdsAt h
  obtain ⟨d, hd⟩ := Option.ne_none_iff_exists'.1 (Nat.find_spec hlevel)
  have hpassed : ∀ j < Nat.find hlevel, (level (j + 1) n).find? (isHeld field) = none :=
    fun j hj => not_not.1 (Nat.find_min hlevel hj)
  obtain ⟨b, hlength, hb, hleft⟩ := exists_leftmost hd
  refine ⟨b, d, ⟨⟨?_, hb, isHeld_iff.1 (List.find?_some hd)⟩, ?_⟩,
    findField?_eq_some_of_level hpassed hd⟩
  · rintro rfl
    cases hlength
  · intro c e hc
    obtain ⟨i, c, rfl⟩ := List.exists_cons_of_ne_nil hc.below
    rcases Nat.lt_trichotomy c.length (Nat.find hlevel) with hnear | hsame | hfar
    · exact absurd hc.held (find?_level_eq_none_iff.1 (hpassed _ hnear) _ e rfl hc.reached)
    · have hsame : (i :: c).length = b.length := by rw [List.length_cons, hsame, hlength]
      rcases hleft (i :: c) e (hsame.trans hlength) hc.reached hc.held with heq | hlt
      · exact Or.inl heq
      · exact Or.inr (Or.inr ⟨hsame.symm, hlt⟩)
    · refine Or.inr (Or.inl ?_)
      rw [hlength, List.length_cons]
      omega

theorem findField?_eq_none (h : ∀ a m, ¬ HoldsAt n field a m) : n.findField? field = none := by
  apply findField?_eq_none_of_levels
  intro k
  rw [find?_level_eq_none_iff]
  intro a m hlength ha hm
  refine h a m ⟨?_, ha, hm⟩
  rintro rfl
  cases hlength

end First

/-- The search for a field ends, after no more turns than there are nodes below. It finds the first
node under the field in the order of the levels, and none exactly when there is no such node. -/
theorem findField?_first (n : Node) (field : String) :
    (∃ turns ≤ sizeAll n.children, Search field turns n.children (n.findField? field)) ∧
      (∀ m, n.findField? field = some m ↔ ∃ a, HoldsFirst n field a m) ∧
      (n.findField? field = none ↔ ∀ a m, ¬ HoldsAt n field a m) := by
  refine ⟨exists_search field (by rw [size_eq]; omega), ?_, ?_, findField?_eq_none⟩
  · intro m
    constructor
    · intro hfound
      have hheld : ∃ a d, HoldsAt n field a d := by
        by_contra hnone
        have hnone : n.findField? field = none :=
          findField?_eq_none fun a d hd => hnone ⟨a, d, hd⟩
        rw [hfound] at hnone
        cases hnone
      obtain ⟨a, d, hd⟩ := hheld
      obtain ⟨b, e, hfirst, he⟩ := exists_holdsFirst hd
      obtain rfl : m = e := Option.some.inj (hfound.symm.trans he)
      exact ⟨b, hfirst⟩
    · rintro ⟨a, hfirst⟩
      obtain ⟨b, e, hfirst', he⟩ := exists_holdsFirst hfirst.toHoldsAt
      rw [he, hfirst.unique hfirst']
  · intro hnone a m hm
    obtain ⟨b, d, -, hd⟩ := exists_holdsFirst hm
    rw [hnone] at hd
    cases hd

end SourceDigest.Syntax.Node
