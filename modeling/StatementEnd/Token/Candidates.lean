import StatementEnd.Text.Hexadecimal
import StatementEnd.Token.Kind

/-!
# Candidate sets

The kinds that a grammar would accept at a position, one bit for each. A set
keeps all eight bits that it was made of; bits that belong to no kind take part
in the set operations and in the printed form, but in no scan.
-/

namespace StatementEnd

/-- A table of flags that does not cover every kind. -/
inductive TableError where
  | tooShort (length expected : Nat)
  deriving DecidableEq, Repr

namespace TableError

def message : TableError -> String
  | tooShort length expected =>
      "valid-symbols table has " ++ toString length ++ " entries, expected at least "
        ++ toString expected

end TableError

structure Candidates where
  bits : UInt8
  deriving DecidableEq, Repr

namespace Candidates

/-!
## Building sets

A set is built from kinds, from bits, of which the unknown ones are kept, dropped
or refused, or from a table of flags, one for each kind.
-/

def empty : Candidates := ⟨0⟩

def ofKind : TokenKind -> Candidates
  | .semicolon => ⟨1⟩
  | .blockComment => ⟨2⟩

def union (a b : Candidates) : Candidates := ⟨a.bits ||| b.bits⟩

def inter (a b : Candidates) : Candidates := ⟨a.bits &&& b.bits⟩

def diff (a b : Candidates) : Candidates := ⟨a.bits &&& ~~~b.bits⟩

def symmDiff (a b : Candidates) : Candidates := ⟨a.bits ^^^ b.bits⟩

def ofKinds (kinds : List TokenKind) : Candidates :=
  kinds.foldl (fun set kind => set.union (ofKind kind)) empty

def known : Candidates := ofKinds TokenKind.all

def ofBits (bits : UInt8) : Candidates := ⟨bits⟩

def ofKnownBits (bits : UInt8) : Candidates := (ofBits bits).inter known

def ofBits? (bits : UInt8) : Option Candidates :=
  if (ofBits bits).diff known = empty then some (ofBits bits) else none

/-- The kinds that are not in the set. -/
def compl (set : Candidates) : Candidates := known.diff set

/-- The set that a table of flags describes, each kind looking at the flag with its
number. Flags beyond the last kind are not looked at. -/
def ofTable (table : List Bool) : Except TableError Candidates :=
  if table.length < TokenKind.count then
    .error (.tooShort table.length TokenKind.count)
  else
    .ok (ofKinds (TokenKind.all.filter fun kind => table.getD kind.ordinal false))

/-- How a set of candidates is handed over: as bits, or as a table of flags. -/
inductive Request where
  | bits (value : UInt8)
  | table (flags : List Bool)
  deriving DecidableEq, Repr

def ofRequest : Request -> Except TableError Candidates
  | .bits value => .ok (ofBits value)
  | .table flags => ofTable flags

/-!
## Questions
-/

/-- Whether every member of the second set is in the first. -/
def includes (a b : Candidates) : Bool := a.bits &&& b.bits == b.bits

def meets (a b : Candidates) : Bool := a.bits &&& b.bits != 0

def allows (set : Candidates) (kind : TokenKind) : Bool := set.includes (ofKind kind)

def isEmpty (set : Candidates) : Bool := set.bits == 0

def allowsAll (set : Candidates) : Bool := set.includes known

/-!
## Printed form

The names of the kinds in the set, and behind them the other bits as one number.
-/

def label : TokenKind -> String
  | .semicolon => "AUTOMATIC_SEMICOLON"
  | .blockComment => "MULTILINE_COMMENT"

def parts (set : Candidates) : List String :=
  let others := (set.diff known).bits
  (TokenKind.all.filter set.allows).map label
    ++ if others = 0 then [] else ["0x" ++ Text.hexDigits others.toNat]

def describe (set : Candidates) : String :=
  let shown := if set.isEmpty then ["0x0"] else set.parts
  "ValidSymbols(" ++ String.intercalate " | " shown ++ ")"

/-!
## Membership
-/

theorem ofTable_of_short {table : List Bool} (h : table.length < TokenKind.count) :
    ofTable table = .error (.tooShort table.length TokenKind.count) := by
  simp [ofTable, h]

theorem ofTable_cons_cons (semicolon comment : Bool) (rest : List Bool) :
    ofTable (semicolon :: comment :: rest) =
      .ok ⟨(if semicolon then 1 else 0) ||| (if comment then 2 else 0)⟩ := by
  cases semicolon <;> cases comment <;>
    simp [ofTable, TokenKind.count, TokenKind.all, TokenKind.ordinal, ofKinds, ofKind, union,
      empty]

theorem allows_ofKind (kind : TokenKind) : (ofKind kind).allows kind = true := by
  cases kind <;> decide

theorem allows_eq_testBit (bits : UInt8) (kind : TokenKind) :
    (ofBits bits).allows kind = bits.toNat.testBit kind.ordinal := by
  rcases bits with ⟨⟨value⟩⟩
  revert value
  cases kind <;> decide +kernel

end Candidates
end StatementEnd
