import StatementEnd.Outcome

/-!
# Hosts

A host owns a text, a position in it and the bounds of the token being read, and
lends them to a routine for one call. The routine sees one character ahead. It
consumes a character as part of the token, or skips it as part of no token, and
it can mark the end of the token where it stands.

A host also says how much it has left. Every loop over a host goes on only while
that amount falls, so a host that does not move when it is asked to cuts the
loop off instead of holding it for ever.
-/

namespace StatementEnd

/-- A text that is read one character at a time, with the bounds of a token. -/
class Host (σ : Type) where
  /-- The character at the position, U+0000 at the end. -/
  lookahead : σ -> Char
  /-- Consumes the character at the position as part of the token. -/
  advance : σ -> σ
  /-- Consumes the character at the position as part of no token. -/
  skip : σ -> σ
  /-- Marks the position as the end of the token. -/
  markEnd : σ -> σ
  /-- Whether an included range starts at the position. -/
  atRegionStart : σ -> Bool
  /-- Whether the text is used up. -/
  atEnd : σ -> Bool
  /-- A bound on the steps that are left. -/
  remaining : σ -> Nat

namespace Host

variable {σ : Type} [Host σ]

/-- Skips while a test holds. -/
@[specialize] def skipWhile (test : σ -> Bool) (host : σ) : Outcome σ Unit :=
  if test host then
    let before := remaining host
    let after := skip host
    if remaining after < before then skipWhile test after else .cutOff after ()
  else .done host ()
termination_by remaining host

/-- Skips one character at a time up to a newline, or to the end. -/
def stepToLineEnd (host : σ) : Outcome σ Unit :=
  skipWhile (fun now => !atEnd now && lookahead now != '\n') host

/-!
## One step of the loop
-/

theorem skipWhile_of_not (test : σ -> Bool) {host : σ} (h : test host = false) :
    skipWhile test host = .done host () := by
  rw [skipWhile]
  simp [h]

theorem skipWhile_of_moves (test : σ -> Bool) {host : σ} (h : test host = true)
    (hmoves : remaining (skip host) < remaining host) :
    skipWhile test host = skipWhile test (skip host) := by
  rw [skipWhile]
  simp [h, hmoves]

end Host

/-- A host with a way of its own to reach the end of a line. -/
class LineHost (σ : Type) extends Host σ where
  /-- Skips up to the next newline, or to the end. -/
  skipLine : σ -> Outcome σ Unit

namespace LineHost

/-- Reaches the end of a line one character at a time. -/
@[reducible] def stepwise (σ : Type) [Host σ] : LineHost σ where
  skipLine := Host.stepToLineEnd

end LineHost
end StatementEnd
