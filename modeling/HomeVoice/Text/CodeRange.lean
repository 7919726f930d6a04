/-!
# Sets of characters given by ranges of code points

A character property of the Unicode standard is kept as a list of closed ranges in ascending
order. Membership is a search through the list, so the table is the definition.
-/

namespace HomeVoice.Text

/-- A closed range of code points, first and last. -/
abbrev CodeRange := Nat × Nat

/-- The character's code point lies in the range. -/
def CodeRange.contains (range : CodeRange) (c : Char) : Bool :=
  range.1 ≤ c.toNat && c.toNat ≤ range.2

/-- Some range of the table holds the character. -/
def inTable (table : List CodeRange) (c : Char) : Bool :=
  table.any (·.contains c)

theorem inTable_iff {table : List CodeRange} {c : Char} :
    inTable table c = true ↔ ∃ range ∈ table, range.1 ≤ c.toNat ∧ c.toNat ≤ range.2 := by
  simp [inTable, CodeRange.contains]

end HomeVoice.Text
