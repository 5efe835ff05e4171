import SourceDigest.Decimal.Shortest
import SourceDigest.Dict

namespace SourceDigest.Json

open Decimal (Binary)

inductive Number where
  | natural (n : Nat)
  | negative (n : Nat)
  | float (x : Binary)
  deriving DecidableEq, Repr

inductive Value where
  | null
  | bool (b : Bool)
  | number (n : Number)
  | string (s : String)
  | array (items : List Value)
  | object (members : List (String × Value))
  deriving Repr, BEq, Inhabited

namespace Value

def ofNat (n : Nat) : Value := .number (.natural n)

def ofTexts (l : List String) : Value := .array (l.map .string)

def ofMembers (l : List (String × Value)) : Value :=
  .object (l.foldl (fun acc e => putEntry e.1 e.2 acc) [])

def get? : Value → String → Option Value
  | .object members, k => lookupEntry k members
  | _, _ => none

mutual

def height : Value → Nat
  | .array items => heightItems items + 1
  | .object members => heightMembers members + 1
  | .null => 1
  | .bool _ => 1
  | .number _ => 1
  | .string _ => 1

def heightItems : List Value → Nat
  | [] => 0
  | v :: vs => max (height v) (heightItems vs)

def heightMembers : List (String × Value) → Nat
  | [] => 0
  | (_, v) :: ms => max (height v) (heightMembers ms)

end

theorem height_pos (v : Value) : 0 < v.height := by
  cases v <;> simp [height]

theorem height_le_of_mem {v : Value} {items : List Value} (h : v ∈ items) :
    v.height ≤ heightItems items := by
  induction items with
  | nil => cases h
  | cons w ws ih =>
    rw [heightItems]
    rcases List.mem_cons.1 h with rfl | h
    · exact Nat.le_max_left _ _
    · exact Nat.le_trans (ih h) (Nat.le_max_right _ _)

end Value

end SourceDigest.Json
