import SourceDigest.Json.Value

namespace SourceDigest.Json

namespace Value

mutual

def decideEq : (v w : Value) → Decidable (v = w)
  | .null, .null => isTrue rfl
  | .bool a, .bool b => decidable_of_iff (a = b) (Iff.of_eq (Value.bool.injEq a b).symm)
  | .number m, .number n => decidable_of_iff (m = n) (Iff.of_eq (Value.number.injEq m n).symm)
  | .string s, .string t => decidable_of_iff (s = t) (Iff.of_eq (Value.string.injEq s t).symm)
  | .array vs, .array ws =>
    have := decideEqItems vs ws
    decidable_of_iff (vs = ws) (Iff.of_eq (Value.array.injEq vs ws).symm)
  | .object ms, .object ns =>
    have := decideEqMembers ms ns
    decidable_of_iff (ms = ns) (Iff.of_eq (Value.object.injEq ms ns).symm)
  | .null, .bool _ | .null, .number _ | .null, .string _ | .null, .array _ | .null, .object _
  | .bool _, .null | .bool _, .number _ | .bool _, .string _ | .bool _, .array _
  | .bool _, .object _ | .number _, .null | .number _, .bool _ | .number _, .string _
  | .number _, .array _ | .number _, .object _ | .string _, .null | .string _, .bool _
  | .string _, .number _ | .string _, .array _ | .string _, .object _ | .array _, .null
  | .array _, .bool _ | .array _, .number _ | .array _, .string _ | .array _, .object _
  | .object _, .null | .object _, .bool _ | .object _, .number _ | .object _, .string _
  | .object _, .array _ => isFalse nofun

def decideEqItems : (vs ws : List Value) → Decidable (vs = ws)
  | [], [] => isTrue rfl
  | [], _ :: _ => isFalse nofun
  | _ :: _, [] => isFalse nofun
  | v :: vs, w :: ws =>
    have := decideEq v w
    have := decideEqItems vs ws
    decidable_of_iff (v = w ∧ vs = ws) (Iff.of_eq (List.cons.injEq v vs w ws).symm)

def decideEqMembers : (ms ns : List (String × Value)) → Decidable (ms = ns)
  | [], [] => isTrue rfl
  | [], _ :: _ => isFalse nofun
  | _ :: _, [] => isFalse nofun
  | (k, v) :: ms, (l, w) :: ns =>
    have := decideEq v w
    have := decideEqMembers ms ns
    decidable_of_iff ((k = l ∧ v = w) ∧ ms = ns) (by rw [List.cons.injEq, Prod.mk.injEq])

end

instance : DecidableEq Value := decideEq

end Value

end SourceDigest.Json
