/-!
# Token kinds

The two tokens that a grammar leaves to a scan by hand: the statement
terminator that stands where a semicolon was left out, and the block comment.
A grammar lists them in a fixed order, and that order numbers them.
-/

namespace StatementEnd

inductive TokenKind where
  /-- The empty token at the end of a statement without a semicolon. -/
  | semicolon
  /-- A comment between a slash-star and a star-slash. -/
  | blockComment
  deriving DecidableEq, Repr

namespace TokenKind

/-- Every kind, in the order of the numbers. -/
def all : List TokenKind := [semicolon, blockComment]

def count : Nat := 2

/-- The number of a kind in the grammar. -/
def ordinal : TokenKind -> Nat
  | semicolon => 0
  | blockComment => 1

/-- The name of a kind in the grammar. -/
def name : TokenKind -> String
  | semicolon => "automatic_semicolon"
  | blockComment => "multiline_comment"

def ofOrdinal? : Nat -> Option TokenKind
  | 0 => some semicolon
  | 1 => some blockComment
  | _ => none

/-!
## Numbering
-/

theorem mem_all (kind : TokenKind) : kind ∈ all := by
  cases kind <;> simp [all]

@[simp] theorem length_all : all.length = count := rfl

theorem ordinal_lt_count (kind : TokenKind) : kind.ordinal < count := by
  cases kind <;> decide

@[simp] theorem ofOrdinal?_ordinal (kind : TokenKind) :
    ofOrdinal? kind.ordinal = some kind := by
  cases kind <;> rfl

end TokenKind
end StatementEnd
