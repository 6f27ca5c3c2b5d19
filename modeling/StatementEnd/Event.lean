import StatementEnd.Text.Quoted
import StatementEnd.Token.Candidates

/-!
# Events of a scan

A scan reports what it decided and why, as a list of events beside its result.
An event is kept as what it says; its level, its message and its further fields
are read off it when it is shown.
-/

namespace StatementEnd

/-- Why a statement ends on the line it stands on. -/
inductive Boundary where
  | endOfInput
  | closingBrace
  | includedRange
  deriving DecidableEq, Repr

/-- One reported decision. -/
inductive Event where
  /-- The statement ends before a boundary on its own line. -/
  | boundary (why : Boundary)
  /-- The line after the newline starts with a slash that opens no comment. -/
  | slashOnNextLine
  /-- The line after the newline was judged by its first character. -/
  | classified (next : Char) (inserted : Bool)
  /-- A block comment ran to the end of input. -/
  | commentUnterminated (depth : UInt32)
  /-- A block comment was closed. -/
  | commentClosed (depth : UInt32)
  /-- A scan produced a token. -/
  | produced (kind : TokenKind)
  /-- A scan produced no token. -/
  | nothingProduced (candidates : Candidates)
  /-- A scan was asked for without a scanner. -/
  | scannerMissing
  /-- A scan was asked for without a host. -/
  | hostMissing
  /-- A scan was asked for without a table of candidates. -/
  | tableMissing
  /-- A scan was asked for with a table that does not fit. -/
  | tableRejected (error : TableError)
  deriving DecidableEq, Repr

/-- How much an event matters. -/
inductive Level where
  | trace
  | warn
  deriving DecidableEq, Repr

/-- The value of a field of an event. -/
inductive FieldValue where
  | number (value : Nat)
  | flag (value : Bool)
  | text (value : String)
  deriving DecidableEq, Repr

namespace Level

def label : Level -> String
  | trace => "TRACE"
  | warn => "WARN"

end Level

namespace Boundary

def message : Boundary -> String
  | endOfInput => "terminator before end of input"
  | closingBrace => "terminator before closing brace"
  | includedRange => "terminator before included range"

end Boundary

namespace Event

/-- The level of an event: a scan that could not start is a warning. -/
def level : Event -> Level
  | scannerMissing | hostMissing | tableMissing | tableRejected _ => .warn
  | _ => .trace

def message : Event -> String
  | boundary why => why.message
  | slashOnNextLine => "next line starts with a slash"
  | classified _ _ => "classified next line"
  | commentUnterminated _ => "unterminated block comment"
  | commentClosed _ => "block comment closed"
  | produced _ => "external token"
  | nothingProduced _ => "no external token"
  | scannerMissing => "scan called without scanner state"
  | hostMissing => "scan called without a lexer"
  | tableMissing => "scan called without valid symbols"
  | tableRejected _ => "rejected valid-symbols table"

/-- The further fields of an event, by name, for any way to write a character. -/
def fieldsBy (write : Char -> String) : Event -> List (String × FieldValue)
  | classified next inserted => [("next", .text (write next)), ("insert", .flag inserted)]
  | commentUnterminated depth | commentClosed depth => [("depth", .number depth.toNat)]
  | produced kind => [("token", .text kind.name)]
  | nothingProduced candidates => [("valid", .text candidates.describe)]
  | tableRejected error => [("err", .text error.message)]
  | boundary _ | slashOnNextLine | scannerMissing | hostMissing | tableMissing => []

def fields (event : Event) : List (String × FieldValue) :=
  event.fieldsBy Text.quoted

/-- The fields of a judged line tell its first character and the judgment. -/
theorem classified_of_fields {next next' : Char} {inserted inserted' : Bool}
    (h : (classified next inserted).fields = (classified next' inserted').fields) :
    next = next' ∧ inserted = inserted' := by
  injection h with hnext hrest
  injection hnext with _ hvalue
  injection hvalue with hquoted
  injection hrest with hflag _
  injection hflag with _ hflag
  injection hflag with hinserted
  exact ⟨Text.quoted_inj hquoted, hinserted⟩

end Event
end StatementEnd
