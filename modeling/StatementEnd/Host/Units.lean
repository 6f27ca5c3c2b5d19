import StatementEnd.Host
import StatementEnd.Token.Bounds
import StatementEnd.Token.Kind

/-!
# A host over units

A host that hands out its text as numbers, one unit for each character, and does
its part through four operations that may be missing. Positions are indices of
units. The unit ahead is kept in a field of its own, which the host brings up to
date after every step and which can be overwritten from outside.

A number that is no Unicode scalar value is seen as U+FFFD. A host that cannot
tell its end is at the end when the unit ahead is zero. Every operation that is
carried out is written to a log.
-/

namespace StatementEnd

inductive Ability where
  | advance
  | markEnd
  | regionStart
  | atEnd
  deriving DecidableEq, Repr

structure Abilities where
  advance : Bool := true
  markEnd : Bool := true
  regionStart : Bool := true
  atEnd : Bool := true
  deriving DecidableEq, Repr

inductive HostCall where
  | advance
  | skip
  | markEnd
  deriving DecidableEq, Repr

structure UnitHost where
  units : Array Int
  pos : Nat := 0
  /-- The unit ahead as the host shows it. -/
  raw : Int
  bounds : TokenBounds := {}
  regions : List Nat := []
  /-- The number of the token that was reported last. -/
  symbol : Nat
  abilities : Abilities := {}
  /-- The operations that were carried out, the latest first. -/
  calls : List HostCall := []
  deriving DecidableEq

namespace Abilities

def set (abilities : Abilities) (present : Bool) : Ability -> Abilities
  | .advance => { abilities with advance := present }
  | .markEnd => { abilities with markEnd := present }
  | .regionStart => { abilities with regionStart := present }
  | .atEnd => { abilities with atEnd := present }

end Abilities

namespace HostCall

def letter : HostCall -> Char
  | advance => 'A'
  | skip => 'S'
  | markEnd => 'M'

end HostCall

namespace UnitHost

/-- The number that is reported for no token. -/
def noSymbol : Nat := 65535

/-- The unit at an index, zero beyond the last. -/
def unitAt (units : Array Int) (index : Nat) : Int := units.getD index 0

def ofUnits (units : Array Int) : UnitHost where
  units := units
  raw := unitAt units 0
  symbol := noSymbol

def ofString (text : String) : UnitHost :=
  ofUnits (text.toList.map fun c => (c.toNat : Int)).toArray

/-- Brings the unit ahead up to date. -/
def sync (host : UnitHost) : UnitHost :=
  { host with raw := unitAt host.units host.pos }

/-- Moves to an index, or to the end when it lies beyond, starts a fresh token there
and forgets the token that was reported. -/
def seek (host : UnitHost) (index : Nat) : UnitHost :=
  let pos := min index host.units.size
  sync { host with pos := pos, bounds := .fresh pos, symbol := noSymbol }

def span (host : UnitHost) : Span := host.bounds.span host.pos

def log (host : UnitHost) (call : HostCall) : UnitHost :=
  { host with calls := call :: host.calls }

def callLetters (host : UnitHost) : String :=
  String.ofList (host.calls.reverse.map HostCall.letter)

def clearCalls (host : UnitHost) : UnitHost := { host with calls := [] }

def setSymbol (host : UnitHost) (kind : TokenKind) : UnitHost :=
  { host with symbol := kind.ordinal }

def charOf (unit : Int) : Char :=
  if h : 0 ≤ unit ∧ unit.toNat.isValidChar then Char.ofNatAux unit.toNat h.2
  else '\uFFFD'

/-- The position one unit further on; the end stays. -/
def nextPos (host : UnitHost) : Nat :=
  if host.pos < host.units.size then host.pos + 1 else host.pos

/-!
## The host operations

An operation that is missing does nothing.
-/

def advance (host : UnitHost) : UnitHost :=
  if host.abilities.advance then
    (sync { host with pos := host.nextPos }).log .advance
  else host

def skip (host : UnitHost) : UnitHost :=
  if host.abilities.advance then
    let pos := host.nextPos
    (sync { host with pos := pos, bounds := host.bounds.startAt pos }).log .skip
  else host

def markEnd (host : UnitHost) : UnitHost :=
  if host.abilities.markEnd then
    { host with bounds := host.bounds.stopAt host.pos }.log .markEnd
  else host

def atEnd (host : UnitHost) : Bool :=
  if host.abilities.atEnd then host.units.size ≤ host.pos else host.raw == 0

def atRegionStart (host : UnitHost) : Bool :=
  host.abilities.regionStart && host.regions.contains host.pos

/-- The units that are left, and one more while the unit ahead is not up to date. -/
def remaining (host : UnitHost) : Nat :=
  (host.units.size - host.pos)
    + if host.raw = unitAt host.units host.pos then 0 else 1

instance : Host UnitHost where
  lookahead host := charOf host.raw
  advance := advance
  skip := skip
  markEnd := markEnd
  atRegionStart := atRegionStart
  atEnd := atEnd
  remaining := remaining

instance : LineHost UnitHost := LineHost.stepwise UnitHost

@[simp] theorem raw_sync (host : UnitHost) :
    host.sync.raw = unitAt host.units host.pos := rfl

@[simp] theorem sync_sync (host : UnitHost) : host.sync.sync = host.sync := rfl

end UnitHost
end StatementEnd
