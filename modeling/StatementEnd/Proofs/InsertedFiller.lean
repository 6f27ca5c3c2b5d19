import StatementEnd.Proofs.DecisionStop

/-!
# Filler put behind a newline

Filler whose comments are all closed stays the same filler wherever it is put: no byte of
it joins with what stands before it or behind it to another piece. So it can be put in front
of any text that filler is skipped from, and the text is read from its own start on. Behind
the newline of a decision about a semicolon it changes nothing but how far is read.
-/

namespace StatementEnd
namespace Text

variable {c : Char} {chars : List Char} {front back : List UInt8}

/-!
## Plain characters among the bytes
-/

end Text

open Text

namespace Filler

variable {bytes more rest : List UInt8} {pieces later : List (List UInt8)}

/-- Bytes that divide into the same pieces whatever stands behind them. -/
structure DividesAlone (bytes : List UInt8) (pieces : List (List UInt8)) : Prop where
  flatten : pieces.flatten = bytes
  behind : forall {more rest : List UInt8} {later : List (List UInt8)},
    Divides more later rest -> Divides (bytes ++ more) (pieces ++ later) rest

namespace DividesAlone

theorem nil : DividesAlone [] [] where
  flatten := rfl
  behind h := h

end DividesAlone

/-!
## Whole pieces divide alone
-/

end Filler

namespace Semicolon

open Filler

variable {bytes more : List UInt8} {pieces : List (List UInt8)} {regions : List Nat}
  {start stop count : Nat}

/-!
## Behind the newline
-/

/-- The blanks at an offset end at a newline, with more bytes behind it. -/
structure NewlineAhead (bytes : List UInt8) (start stop : Nat) (more : List UInt8) : Prop where
  blanksEnd : blanksEnd bytes start = stop
  newline : bytes[stop]? = some '\n'.toUInt8
  behind : bytes.drop (stop + 1) = more

namespace NewlineAhead

theorem le (h : NewlineAhead bytes start stop more) : start ≤ stop := by
  rw [← h.blanksEnd]
  exact Nat.le_add_right _ _

end NewlineAhead

end Semicolon

namespace TextHost

open Semicolon Filler

variable {source text : String} {regions : List Nat} {more : List UInt8}
  {start stop count : Nat}

end TextHost
end StatementEnd
