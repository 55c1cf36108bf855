/-!
# Ascending tables

A number is looked up in a table of ascending numbers by halving the part of the
table in which it can still stand.
-/

namespace VelocityScript

/-- Where a number belongs in an ascending table: it is the entry at an index, or
it would have to be put in front of an index. -/
inductive Spot where
  | entry (index : Nat)
  | gap (index : Nat)
  deriving DecidableEq

/-- Looks a number up from one index of a table to before another one. -/
def searchBetween (table : Array Nat) (key low high : Nat)
    (inside : high ≤ table.size) : Spot :=
  if remains : low < high then
    let middle := low + (high - low) / 2
    have : middle < table.size := by omega
    if table[middle] = key then
      .entry middle
    else if table[middle] < key then
      searchBetween table key (middle + 1) high inside
    else
      searchBetween table key low middle (by omega)
  else
    .gap low
termination_by high - low

/-- Looks a number up in a table. -/
def search (table : Array Nat) (key : Nat) : Spot :=
  searchBetween table key 0 table.size (Nat.le_refl _)

/-- The index of the last entry that does not exceed a number. -/
def lastIndexUpTo (table : Array Nat) (key : Nat) : Nat :=
  match search table key with
  | .entry index => index
  | .gap index => index - 1

end VelocityScript
