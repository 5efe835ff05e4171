import SourceDigest.Text.Split

namespace SourceDigest.Text

structure Row where
  first : Nat
  texts : Array (List Char)
  deriving DecidableEq, Repr

namespace Row

def ofText (row : Nat × String) : Row := ⟨row.1, (splitOn ' ' row.2.toList).toArray⟩

def at? (r : Row) (c : Char) : Option (List Char) :=
  if c.toNat < r.first then none else r.texts[c.toNat - r.first]?

def find? (rows : List Row) (c : Char) : Option (List Char) := rows.findSome? (·.at? c)

theorem at?_eq_none_of_lt {r : Row} {c : Char} (h : c.toNat < r.first) : r.at? c = none := by
  simp [at?, h]

theorem find?_eq_none_of_lt {rows : List Row} {c : Char} (h : ∀ r ∈ rows, c.toNat < r.first) :
    find? rows c = none := by
  simp only [find?, List.findSome?_eq_none_iff]
  exact fun r hr => at?_eq_none_of_lt (h r hr)

end Row

end SourceDigest.Text
