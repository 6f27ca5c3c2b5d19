import StatementEnd.BlockComment
import StatementEnd.Semicolon

/-!
# Scanning for a token

One attempt to produce a token out of a set of candidates. Where the terminator
is a candidate, only the terminator is tried. Otherwise white space is skipped,
and a block comment is tried behind it if it is a candidate. The last event tells
what was produced.
-/

namespace StatementEnd

variable {σ : Type}

/-- Tries the candidates at the position. -/
def attempt [LineHost σ] (candidates : Candidates) (host : σ) :
    Outcome σ (Option TokenKind) :=
  if candidates.allows .semicolon then
    (Semicolon.scan host).map fun ends => if ends then some .semicolon else none
  else
    (Filler.skipSpaces host).andThen fun _ start =>
      if candidates.allows .blockComment then
        (BlockComment.scan start).map fun closed =>
          if closed then some .blockComment else none
      else .done start none

/-- The event that closes a scan. -/
def closingEvent (candidates : Candidates) : Option TokenKind -> Event
  | some kind => .produced kind
  | none => .nothingProduced candidates

/-- Tries the candidates at the position and reports what was produced. -/
def scanToken [LineHost σ] (candidates : Candidates) (host : σ) :
    Outcome σ (Option TokenKind) :=
  let tried := attempt candidates host
  tried.report (closingEvent candidates tried.result)

/-!
## What is tried
-/

section Tried

variable [LineHost σ] {candidates : Candidates} (host : σ)

theorem attempt_of_semicolon (h : candidates.allows .semicolon = true) :
    attempt candidates host =
      (Semicolon.scan host).map fun ends => if ends then some .semicolon else none := by
  rw [attempt, h]
  rfl

theorem attempt_of_comment (h : candidates.allows .semicolon = false)
    (hc : candidates.allows .blockComment = true) :
    attempt candidates host = (Filler.skipSpaces host).andThen fun _ start =>
      (BlockComment.scan start).map fun closed => if closed then some .blockComment else none := by
  rw [attempt, h, hc]
  rfl

theorem attempt_of_neither (h : candidates.allows .semicolon = false)
    (hc : candidates.allows .blockComment = false) :
    attempt candidates host = (Filler.skipSpaces host).andThen fun _ start =>
      .done start none := by
  rw [attempt, h, hc]
  rfl

end Tried

end StatementEnd
