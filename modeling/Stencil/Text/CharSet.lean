/-! Sets of characters given by the code points at which membership changes. -/

set_option autoImplicit false

namespace Stencil.Text

/-- How many entries of a rising table, from index `lo` up to `hi`, are at most `value`, added to `lo`. -/
def rankBetween (table : Array Nat) (value lo hi : Nat) : Nat :=
  if lo < hi then
    let mid := (lo + hi) / 2
    if table.getD mid 0 ≤ value then rankBetween table value (mid + 1) hi
    else rankBetween table value lo mid
  else lo
termination_by hi - lo
decreasing_by all_goals omega

/-- How many entries of a rising table are at most `value`. -/
def rank (table : Array Nat) (value : Nat) : Nat :=
  rankBetween table value 0 table.size

/-- A set of characters: outside below the first listed code point, inside up to the next, and so on. -/
structure CharSet where
  flips : Array Nat

/-- A character belongs to the set if an odd number of changes lie at or below it. -/
def CharSet.contains (set : CharSet) (c : Char) : Bool :=
  rank set.flips c.toNat % 2 == 1

end Stencil.Text
