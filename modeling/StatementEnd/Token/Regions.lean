/-!
# Starts of included ranges

A document can hold several separately tracked ranges of source. The positions
where they start are kept once each, in increasing order, so that a position is
looked up by halving.
-/

namespace StatementEnd

/-- The starts of the included ranges. -/
structure RegionStarts where
  starts : Array Nat := #[]
  deriving DecidableEq

namespace RegionStarts

/-- Keeps one of each run of equal neighbours. -/
def dropRepeats : List Nat -> List Nat
  | first :: second :: rest =>
      if first = second then dropRepeats (second :: rest)
      else first :: dropRepeats (second :: rest)
  | short => short

/-- The starts in a list, which may be in any order and repeat itself. -/
def ofList (positions : List Nat) : RegionStarts where
  starts := (dropRepeats (positions.mergeSort fun a b => a ≤ b)).toArray

/-- Looks for a position between two indices by halving. -/
def search (starts : Array Nat) (pos low high : Nat) : Bool :=
  if low < high then
    let middle := low + (high - low) / 2
    let found := starts.getD middle 0
    if found = pos then true
    else if found < pos then search starts pos (middle + 1) high
    else search starts pos low middle
  else false
termination_by high - low

/-- Whether a range starts at a position. -/
def contains (regions : RegionStarts) (pos : Nat) : Bool :=
  search regions.starts pos 0 regions.starts.size

/-!
## Removing repeats
-/

theorem mem_dropRepeats {pos : Nat} (positions : List Nat) :
    pos ∈ dropRepeats positions <-> pos ∈ positions := by
  induction positions using dropRepeats.induct with
  | case1 first rest ih =>
      rw [dropRepeats, if_pos rfl, ih]
      simp
  | case2 first second rest hdiffer ih =>
      rw [dropRepeats, if_neg hdiffer]
      simp [ih]
  | case3 short hshort =>
      rw [dropRepeats]
      exact hshort

@[simp] theorem contains_empty (pos : Nat) :
    ({} : RegionStarts).contains pos = false := by
  simp [contains, search]

end RegionStarts
end StatementEnd
