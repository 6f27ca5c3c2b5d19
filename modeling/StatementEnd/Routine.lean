import StatementEnd.Scan

/-!
# Routines

The four things that can be asked of a text at a position: a scan for candidates,
the decision about a semicolon, a block comment, and skipping filler.
-/

namespace StatementEnd

/-- What can be asked at a position. -/
inductive Routine where
  | scan (candidates : Candidates)
  | semicolon
  | comment
  | filler
  deriving DecidableEq, Repr

/-- What a routine answers. -/
inductive Verdict where
  | token (kind? : Option TokenKind)
  | flag (holds : Bool)
  deriving DecidableEq, Repr

namespace Routine

/-- Runs a routine on a host. -/
def run {σ : Type} [LineHost σ] (routine : Routine) (host : σ) : Outcome σ Verdict :=
  match routine with
  | scan candidates => (scanToken candidates host).map .token
  | semicolon => (Semicolon.scan host).map .flag
  | comment => (BlockComment.scan host).map .flag
  | filler => (Filler.skip host).map .flag

end Routine
end StatementEnd
