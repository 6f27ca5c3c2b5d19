import StatementEnd.Host

/-!
# Block comment tokens

A block comment read as a token. The first star-slash after the opening closes
it, except that a star which follows a slash inside the comment belongs to an
opening and closes nothing. Such inner openings are counted, but the count is
only reported: it is not waited for, and a comment with inner openings ends at
the same place as one without.
-/

namespace StatementEnd
namespace BlockComment

variable {σ : Type} [Host σ]

/-- Reads the rest of a block comment after its opening. The flag tells whether the
character before the position is a star that can close the comment, and the
depth counts the openings that were not closed. -/
def readBody (afterStar : Bool) (depth : UInt32) (host : σ) : Outcome σ Bool :=
  if Host.atEnd host then
    (Outcome.done host false).report (.commentUnterminated depth)
  else
    let before := Host.remaining host
    let next := Host.lookahead host
    let step := Host.advance host
    if next == '/' && afterStar then
      (Outcome.done (Host.markEnd step) true).report (.commentClosed (depth - 1))
    else
      let opens := next == '/' && Host.lookahead step == '*'
      let after := if opens then Host.advance step else step
      if moved : Host.remaining after < before then
        readBody (next == '*') (if opens then depth + 1 else depth) after
      else .cutOff after false
termination_by Host.remaining host
decreasing_by exact moved

/-- Reads a block comment as the token. On success the end of the token is marked
after the closing star-slash; otherwise no end is marked. -/
def scan (host : σ) : Outcome σ Bool :=
  if Host.lookahead host = '/' then
    let slash := Host.advance host
    if Host.lookahead slash = '*' then readBody false 1 (Host.advance slash)
    else .done slash false
  else .done host false

end BlockComment
end StatementEnd
