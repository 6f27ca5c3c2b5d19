import StatementEnd.Host
import StatementEnd.Text.Reader
import StatementEnd.Token.Bounds
import StatementEnd.Token.Regions

/-!
# A host over a text in memory

A reader with the bounds of a token and the starts of the included ranges.
Positions are byte offsets. The end of a line is found by a search for the
newline byte instead of a walk over the characters.
-/

namespace StatementEnd

/-- A reader, the token being read and the included ranges. -/
structure TextHost where
  reader : Text.Reader
  bounds : TokenBounds := {}
  regions : RegionStarts := {}

namespace TextHost

def ofString (text : String) : TextHost where
  reader := Text.Reader.ofString text

/-- Sets the starts of the included ranges; the position and the token stay. -/
def withRegions (host : TextHost) (positions : List Nat) : TextHost :=
  { host with regions := .ofList positions }

/-- The byte offset of the position. -/
def pos (host : TextHost) : Nat := host.reader.pos

/-- Moves to a byte offset, or to the end when it lies beyond, and starts a fresh
token there. -/
def seek (host : TextHost) (offset : Nat) : TextHost :=
  let reader := host.reader.seek offset
  { host with reader := reader, bounds := .fresh reader.pos }

def span (host : TextHost) : Span := host.bounds.span host.pos

def tokenText (host : TextHost) : String :=
  host.reader.slice host.span.start host.span.stop

/-- Puts the reader elsewhere and the start of the token with it. -/
def skipTo (host : TextHost) (reader : Text.Reader) : TextHost :=
  { host with reader := reader, bounds := host.bounds.startAt reader.pos }

/-!
## The host operations
-/

instance : Host TextHost where
  lookahead host := host.reader.char
  advance host := { host with reader := host.reader.advance }
  skip host := host.skipTo host.reader.advance
  markEnd host := { host with bounds := host.bounds.stopAt host.pos }
  atRegionStart host := host.regions.contains host.pos
  atEnd host := host.reader.atEnd
  remaining host := host.reader.text.length - host.reader.pos

instance : LineHost TextHost where
  skipLine host := .done (host.skipTo host.reader.toLineEnd) ()

@[simp] theorem pos_seek (host : TextHost) (offset : Nat) :
    (host.seek offset).pos = min offset host.reader.text.length := rfl

@[simp] theorem bounds_seek (host : TextHost) (offset : Nat) :
    (host.seek offset).bounds = .fresh (host.seek offset).pos := rfl

end TextHost
end StatementEnd
