/-! Membership of a code point in a table of closed ranges. -/
namespace LogicTutor.Text

/-- A table of code points: closed ranges in increasing order. -/
abbrev RangeTable := List (Nat × Nat)

/-- The code point lies in one of the ranges. -/
def RangeTable.covers (table : RangeTable) (n : Nat) : Bool :=
  table.any fun r => r.1 ≤ n && n ≤ r.2

end LogicTutor.Text
