import StatementEnd.Filler
import StatementEnd.Text.Alphabetic

/-!
# The end of a statement without a semicolon

Whether a statement ends at the position although no semicolon stands there. The
token is empty: its end is marked first, and all that is read afterwards only
informs the decision.

On its own line a statement ends only before the end of input, a closing brace
or the start of an included range. After a newline and the filler behind it,
the first character of the next line decides: punctuation that can only continue
an expression keeps the statement open, as do a lone plus or minus, an exclamation
mark before an equals sign and the word `in`.
-/

namespace StatementEnd
namespace Semicolon

variable {σ : Type}

/-- What ends the reading of the first line. -/
inductive LineStop where
  | boundary (why : Boundary)
  | newline
  | content
  deriving DecidableEq, Repr

/-- What stands at the position, for the reading of the first line. -/
def lineStop [Host σ] (host : σ) : LineStop :=
  if Host.atEnd host then .boundary .endOfInput
  else if Host.lookahead host = '}' then .boundary .closingBrace
  else if Host.atRegionStart host then .boundary .includedRange
  else if Host.lookahead host = '\n' then .newline
  else .content

/-- Whether the position holds white space inside the first line. -/
def onBlank [Host σ] (host : σ) : Bool :=
  lineStop host == .content && Filler.isSpace (Host.lookahead host)

/-- Skips the white space in the rest of the line. -/
def readLine [Host σ] (host : σ) : Outcome σ LineStop :=
  (Host.skipWhile onBlank host).andThen fun _ stop => .done stop (lineStop stop)

/-- Whether a character can only continue the statement before it. -/
def continues (c : Char) : Bool :=
  [',', '.', ':', ';', '*', '%', '>', '<', '=', '[', '(', '?', '^', '|', '&', '/'].contains c

/-- Skips characters as long as they spell a word. -/
def skipWord [Host σ] : List Char -> σ -> σ
  | [], host => host
  | letter :: rest, host =>
      if Host.lookahead host = letter then skipWord rest (Host.skip host) else host

/-- Whether the word at the position, which starts with an `i`, is the word `in`. Only
alphabetic characters extend a word. Another word is read as far as it agrees
with `instanceof`. -/
def readsIn [Host σ] (host : σ) : Outcome σ Bool :=
  let second := Host.skip host
  if Host.lookahead second = 'n' then
    let third := Host.skip second
    if Text.isAlphabetic (Host.lookahead third) then
      .done (skipWord ['s', 't', 'a', 'n', 'c', 'e', 'o', 'f'] third) false
    else .done third true
  else .done second false

/-- Whether the line at the position starts a statement. -/
def startsStatement [Host σ] (host : σ) : Outcome σ Bool :=
  let next := Host.lookahead host
  if continues next then .done host false
  else if next = '+' ∨ next = '-' then
    let second := Host.skip host
    .done second (Host.lookahead second == next)
  else if next = '!' then
    let second := Host.skip host
    .done second (Host.lookahead second != '=')
  else if next = 'i' then (readsIn host).map (!·)
  else .done host true

/-- Decides about the line after the newline, which has been skipped. -/
def readNextLine [LineHost σ] (host : σ) : Outcome σ Bool :=
  (Filler.skip host).andThen fun clear line =>
    if clear then
      let judged := startsStatement line
      judged.report (.classified (Host.lookahead line) judged.result)
    else (Outcome.done line false).report .slashOnNextLine

/-- Decides whether the statement ends at the position. -/
def scan [LineHost σ] (host : σ) : Outcome σ Bool :=
  (readLine (Host.markEnd host)).andThen fun stop line =>
    match stop with
    | .boundary why => (Outcome.done line true).report (.boundary why)
    | .newline => readNextLine (Host.skip line)
    | .content => .done line false

/-!
## What stops the reading of a line

The first of four tests that holds decides, and where none holds it is content.
-/

variable [Host σ] {host : σ}

inductive StopsFor (host : σ) : LineStop -> Prop where
  | endOfInput (hend : Host.atEnd host = true) : StopsFor host (.boundary .endOfInput)
  | closingBrace (hend : Host.atEnd host = false) (hbrace : Host.lookahead host = '}') :
      StopsFor host (.boundary .closingBrace)
  | includedRange (hend : Host.atEnd host = false) (hbrace : Host.lookahead host ≠ '}')
      (hregion : Host.atRegionStart host = true) : StopsFor host (.boundary .includedRange)
  | newline (hend : Host.atEnd host = false) (hregion : Host.atRegionStart host = false)
      (hnewline : Host.lookahead host = '\n') : StopsFor host .newline
  | content (hend : Host.atEnd host = false) (hbrace : Host.lookahead host ≠ '}')
      (hregion : Host.atRegionStart host = false) (hnewline : Host.lookahead host ≠ '\n') :
      StopsFor host .content

theorem stopsFor_lineStop (host : σ) : StopsFor host (lineStop host) := by
  cases hend : Host.atEnd host with
  | true =>
      rw [lineStop, if_pos hend]
      exact .endOfInput hend
  | false =>
      rw [lineStop, if_neg (by simp [hend])]
      by_cases hbrace : Host.lookahead host = '}'
      · rw [if_pos hbrace]
        exact .closingBrace hend hbrace
      · rw [if_neg hbrace]
        cases hregion : Host.atRegionStart host with
        | true => exact .includedRange hend hbrace hregion
        | false =>
            by_cases hnewline : Host.lookahead host = '\n'
            · simpa [hnewline] using StopsFor.newline hend hregion hnewline
            · simpa [hnewline] using StopsFor.content hend hbrace hregion hnewline

theorem lineStop_eq_iff {stop : LineStop} : lineStop host = stop <-> StopsFor host stop := by
  constructor
  · rintro rfl
    exact stopsFor_lineStop host
  · intro h
    cases h <;> simp [lineStop, *]

theorem lineStop_content_iff : lineStop host = .content <->
    Host.atEnd host = false ∧ Host.lookahead host ≠ '}' ∧
      Host.atRegionStart host = false ∧ Host.lookahead host ≠ '\n' := by
  rw [lineStop_eq_iff]
  constructor
  · intro h
    cases h with
    | content hend hbrace hregion hnewline => exact ⟨hend, hbrace, hregion, hnewline⟩
  · rintro ⟨hend, hbrace, hregion, hnewline⟩
    exact .content hend hbrace hregion hnewline

theorem lineStop_newline_iff : lineStop host = .newline <->
    Host.atEnd host = false ∧ Host.atRegionStart host = false ∧
      Host.lookahead host = '\n' := by
  rw [lineStop_eq_iff]
  constructor
  · intro h
    cases h with
    | newline hend hregion hnewline => exact ⟨hend, hregion, hnewline⟩
  · rintro ⟨hend, hregion, hnewline⟩
    exact .newline hend hregion hnewline

theorem cause_of_boundary {why : Boundary} (h : lineStop host = .boundary why) :
    Host.atEnd host = true ∨ Host.lookahead host = '}' ∨ Host.atRegionStart host = true := by
  cases lineStop_eq_iff.mp h with
  | endOfInput hend => exact Or.inl hend
  | closingBrace _ hbrace => exact Or.inr (Or.inl hbrace)
  | includedRange _ _ hregion => exact Or.inr (Or.inr hregion)

theorem onBlank_eq_true : onBlank host = true <->
    Host.atEnd host = false ∧ Host.atRegionStart host = false ∧
      Filler.isSpace (Host.lookahead host) = true ∧ Host.lookahead host ≠ '\n' := by
  rw [onBlank, Bool.and_eq_true, beq_iff_eq, lineStop_content_iff]
  constructor
  · intro h
    exact ⟨h.1.1, h.1.2.2.1, h.2, h.1.2.2.2⟩
  · intro h
    rcases h with ⟨hend, hregion, hspace, hnewline⟩
    refine ⟨⟨hend, ?_, hregion, hnewline⟩, hspace⟩
    intro hbrace
    rw [hbrace] at hspace
    exact absurd hspace (by decide)

end Semicolon
end StatementEnd
