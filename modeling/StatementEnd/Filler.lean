import StatementEnd.Host

/-!
# Filler

White space and comments between tokens. Filler is skipped and never becomes
part of a token. A line comment runs up to the next newline, a block comment
through the first star-slash after its opening, and either may run to the end of
input instead; block comments do not nest here.

A slash that opens no comment ends the filler, and it has been skipped by the
time that is known.
-/

namespace StatementEnd
namespace Filler

/-- Whether a character is white space: U+0020 and the five ASCII controls that
move the position on a page. Other spaces count as content. -/
def isSpace (c : Char) : Bool :=
  c == ' ' || c == '\t' || c == '\n' || c == '\x0b' || c == '\x0c' || c == '\r'

variable {σ : Type}

/-- Skips white space. -/
def skipSpaces [Host σ] (host : σ) : Outcome σ Unit :=
  Host.skipWhile (fun now => isSpace (Host.lookahead now)) host

/-- Whether a star-slash stands at the position. -/
def closesHere [Host σ] (host : σ) : Bool :=
  Host.lookahead host == '*' && Host.lookahead (Host.skip host) == '/'

/-- Skips the rest of a block comment, its closing star-slash included. -/
def skipBlockBody [Host σ] (host : σ) : Outcome σ Unit :=
  (Host.skipWhile (fun now => !Host.atEnd now && !closesHere now) host).andThen
    fun _ stop =>
      if Host.atEnd stop then .done stop () else .done (Host.skip (Host.skip stop)) ()

/-- Skips the rest of a comment after its first slash, if a comment opens there. -/
def skipComment? [LineHost σ] (host : σ) : Option (Outcome σ Unit) :=
  if Host.lookahead host = '/' then some (LineHost.skipLine (Host.skip host))
  else if Host.lookahead host = '*' then some (skipBlockBody (Host.skip host))
  else none

/-- Skips filler. The result is false when a slash that opens no comment was met. -/
def skip [LineHost σ] (host : σ) : Outcome σ Bool :=
  let before := Host.remaining host
  let spaces := skipSpaces host
  if Host.lookahead spaces.host = '/' then
    let slash := Host.skip spaces.host
    match skipComment? slash with
    | none => { spaces with result := false, host := slash }
    | some comment =>
        if spaces.stalled || comment.stalled then .cutOff comment.host true
        else if Host.remaining comment.host < before then skip comment.host
        else .cutOff comment.host true
  else spaces.map fun _ => true
termination_by Host.remaining host

end Filler
end StatementEnd
