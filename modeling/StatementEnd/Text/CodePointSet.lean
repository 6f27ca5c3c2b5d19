/-!
# Sets of code points

A set of code points is kept as the list of its maximal closed ranges, in
increasing order, the way the tables of character properties are published.
-/

namespace StatementEnd
namespace Text

/-- A set of code points, as closed ranges in increasing order. -/
structure CodePointSet where
  ranges : List (Nat × Nat)

namespace CodePointSet

/-- Whether a code point lies in one of the ranges. -/
def contains (set : CodePointSet) (point : Nat) : Bool :=
  set.ranges.any fun range => range.1 ≤ point && point ≤ range.2

end CodePointSet
end Text
end StatementEnd
