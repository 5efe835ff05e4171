import Mathlib.Data.List.Lex
import SourceDigest.Syntax.Node

namespace SourceDigest.Syntax.Node

theorem unstack_eq {fuel : Nat} {stack : List Node} (h : sizeAll stack ≤ fuel) :
    unstack fuel stack = preorderAll stack := by
  induction fuel generalizing stack with
  | zero =>
    cases stack with
    | nil => rfl
    | cons n stack =>
      rw [sizeAll, size_eq] at h
      omega
  | succ fuel ih =>
    cases stack with
    | nil => rfl
    | cons n stack =>
      rw [sizeAll, size_eq] at h
      have hrest : unstack fuel (n.children ++ stack) = preorderAll (n.children ++ stack) :=
        ih (by rw [sizeAll_append]; omega)
      rw [unstack, pushAll_reverse, hrest, preorderAll, preorder_eq]
      simp only [preorderAll_eq, List.flatMap_append, List.cons_append]

theorem descendants_eq_preorder (n : Node) : n.descendants = n.preorder := by
  have hsize : sizeAll [n] ≤ n.size := by simp [sizeAll]
  rw [descendants, unstack_eq hsize, preorderAll, preorderAll, List.append_nil]

theorem preorder_cons (n : Node) : n.preorder = n :: n.children.flatMap preorder := by
  rw [preorder_eq, preorderAll_eq]

theorem size_le_sizeAll {c : Node} {ns : List Node} (h : c ∈ ns) : c.size ≤ sizeAll ns := by
  induction ns with
  | nil => cases h
  | cons n ns ih =>
    rw [sizeAll]
    rcases List.mem_cons.1 h with rfl | hns
    · omega
    · have hle := ih hns
      omega

theorem size_lt_of_mem {n c : Node} (h : c ∈ n.children) : c.size < n.size := by
  rw [size_eq n]
  exact Nat.lt_succ_of_le (size_le_sizeAll h)

theorem forall_of_children {P : Node → Prop} (h : ∀ n, (∀ c ∈ n.children, P c) → P n) (n : Node) :
    P n :=
  h n fun c hc =>
    have : c.size < n.size := size_lt_of_mem hc
    forall_of_children h c
termination_by n.size

def at? (n : Node) : List Nat → Option Node
  | [] => some n
  | i :: address => n.children[i]?.bind fun c => at? c address

mutual

def addresses : Node → List (List Nat)
  | ⟨_, _, _, _, _, _, children⟩ => [] :: addressesFrom 0 children

def addressesFrom (i : Nat) : List Node → List (List Nat)
  | [] => []
  | n :: ns => (addresses n).map (i :: ·) ++ addressesFrom (i + 1) ns

end

theorem addresses_eq (n : Node) : n.addresses = [] :: addressesFrom 0 n.children := by
  cases n
  rw [addresses]

theorem mem_addressesFrom {a : List Nat} {i : Nat} {ns : List Node} :
    a ∈ addressesFrom i ns ↔ ∃ j b c, a = (i + j) :: b ∧ ns[j]? = some c ∧ b ∈ c.addresses := by
  induction ns generalizing i with
  | nil => simp [addressesFrom]
  | cons n ns ih =>
    rw [addressesFrom, List.mem_append, List.mem_map, ih]
    constructor
    · rintro (⟨b, hb, rfl⟩ | ⟨j, b, c, rfl, hc, hb⟩)
      · exact ⟨0, b, n, rfl, rfl, hb⟩
      · exact ⟨j + 1, b, c, by rw [Nat.add_right_comm, Nat.add_assoc], hc, hb⟩
    · rintro ⟨j, b, c, rfl, hc, hb⟩
      cases j with
      | zero =>
        cases hc
        exact Or.inl ⟨b, hb, rfl⟩
      | succ j => exact Or.inr ⟨j, b, c, by rw [Nat.add_right_comm, Nat.add_assoc], hc, hb⟩

theorem mem_addresses_iff (n : Node) (a : List Nat) : a ∈ n.addresses ↔ (n.at? a).isSome = true := by
  induction a generalizing n with
  | nil => simp [addresses_eq, at?]
  | cons i a ih =>
    rw [addresses_eq, at?, List.mem_cons, mem_addressesFrom]
    cases hc : n.children[i]? with
    | none => simp [hc]
    | some c => simp [hc, ih]

mutual

theorem map_at?_addresses : ∀ n : Node, n.addresses.map n.at? = n.preorder.map some
  | ⟨kind, text, start, stop, isNamed, field, children⟩ => by
    have hbelow := map_at?_addressesFrom ⟨kind, text, start, stop, isNamed, field, children⟩
      children 0 fun j => by rw [Nat.zero_add]
    rw [addresses, preorder, List.map_cons, List.map_cons, hbelow]
    rfl

theorem map_at?_addressesFrom (n : Node) : ∀ (ns : List Node) (i : Nat),
    (∀ j, n.children[i + j]? = ns[j]?) →
      (addressesFrom i ns).map n.at? = (preorderAll ns).map some
  | [], _, _ => rfl
  | c :: ns, i, h => by
    have hc : n.children[i]? = some c := h 0
    have hhead : ((addresses c).map (i :: ·)).map n.at? = (preorder c).map some := by
      rw [List.map_map, ← map_at?_addresses c]
      apply List.map_congr_left
      intro a _
      rw [Function.comp, at?, hc, Option.bind_some]
    have htail := map_at?_addressesFrom n ns (i + 1) fun j => by
      rw [Nat.add_right_comm, Nat.add_assoc]
      exact h (j + 1)
    rw [addressesFrom, preorderAll, List.map_append, List.map_append, hhead, htail]

end

mutual

theorem pairwise_addresses : ∀ n : Node, n.addresses.Pairwise (· < ·)
  | ⟨_, _, _, _, _, _, children⟩ => by
    rw [addresses, List.pairwise_cons]
    refine ⟨?_, pairwise_addressesFrom 0 children⟩
    intro a ha
    obtain ⟨j, b, -, rfl, -⟩ := mem_addressesFrom.1 ha
    exact List.nil_lt_cons _ _

theorem pairwise_addressesFrom (i : Nat) :
    ∀ ns : List Node, (addressesFrom i ns).Pairwise (· < ·)
  | [] => List.Pairwise.nil
  | c :: ns => by
    rw [addressesFrom, List.pairwise_append, List.pairwise_map]
    refine ⟨?_, pairwise_addressesFrom (i + 1) ns, ?_⟩
    · apply (pairwise_addresses c).imp
      intro a b hab
      exact List.cons_lt_cons_iff.2 (Or.inr ⟨rfl, hab⟩)
    · intro a ha b hb
      obtain ⟨a', -, rfl⟩ := List.mem_map.1 ha
      obtain ⟨j, b', -, rfl, -⟩ := mem_addressesFrom.1 hb
      exact List.cons_lt_cons_iff.2 (Or.inl (by omega))

end

end SourceDigest.Syntax.Node
