import StatementEnd.Entry
import StatementEnd.Routine

/-!
# Sessions on a unit host

A run of steps on one unit host and one place for a scanner, which is empty at
first. Some steps are calls of the entry points, some are operations of the host as
a routine sees it, and some change the host from outside. The log of the host is
emptied before every step. A scan through the entry point is also tried without a
host, and saving a scanner answers whether the buffer stayed as it was.
-/

namespace StatementEnd

structure UnitSession where
  slot : Option Scanner := none
  host : UnitHost

inductive UnitStep where
  | create
  | destroy
  | reset
  | serialize (buffer : Option (List UInt8))
  | deserialize (bytes : Option (List UInt8))
  | scan (table : Option (List Bool))
  | scanWithoutHost (table : Option (List Bool))
  | seek (index : Nat)
  | overwrite (unit : Int)
  | regions (positions : List Nat)
  | ability (which : Ability) (present : Bool)
  | lookForMissingHost
  | lookahead
  | atEnd
  | atRegionStart
  | advance
  | skip
  | markEnd
  | skipLine
  | setSymbol (kind : TokenKind)
  | semicolon
  | comment
  | filler
  deriving DecidableEq, Repr

inductive UnitReply where
  | nothing
  | verdict (verdict : Verdict)
  | char (value : Char)
  | saved (written : Nat) (unchanged? : Option Bool)
  deriving DecidableEq, Repr

namespace UnitSession

def ofUnits (units : Array Int) : UnitSession where
  host := .ofUnits units

def ofString (text : String) : UnitSession where
  host := .ofString text

def moved (session : UnitSession) (host : UnitHost) : Outcome UnitSession UnitReply :=
  .done { session with host := host } .nothing

def withSlot (session : UnitSession) (slot : Option Scanner) :
    Outcome UnitSession UnitReply :=
  .done { session with slot := slot } .nothing

def answer (session : UnitSession) (holds : Bool) : Outcome UnitSession UnitReply :=
  .done session (.verdict (.flag holds))

def call (session : UnitSession) (routine : Routine) : Outcome UnitSession UnitReply :=
  (routine.run session.host).andThen fun verdict host =>
    .done { session with host := host } (.verdict verdict)

def scan (session : UnitSession) (host : Option UnitHost) (table : Option (List Bool)) :
    Outcome UnitSession UnitReply :=
  (Entry.scan session.slot host table).andThen fun produced host =>
    .done { session with host := host.getD session.host } (.verdict (.flag produced))

def serialize (session : UnitSession) (buffer : Option (List UInt8)) :
    Outcome UnitSession UnitReply :=
  let saved := Entry.serialize session.slot buffer
  .done session (.saved saved.1 (buffer.map fun _ => saved.2 == buffer))

def act (session : UnitSession) : UnitStep -> Outcome UnitSession UnitReply
  | .create =>
      let slot := Entry.create
      (session.withSlot slot).map fun _ => .verdict (.flag slot.isSome)
  | .destroy => session.withSlot (Entry.destroy session.slot)
  | .reset => session.withSlot (Entry.reset session.slot)
  | .serialize buffer => session.serialize buffer
  | .deserialize bytes => session.withSlot (Entry.deserialize session.slot bytes)
  | .scan table => session.scan (some session.host) table
  | .scanWithoutHost table => session.scan none table
  | .seek index => session.moved (session.host.seek index)
  | .overwrite unit => session.moved { session.host with raw := unit }
  | .regions positions => session.moved { session.host with regions := positions }
  | .ability which present =>
      session.moved
        { session.host with abilities := session.host.abilities.set present which }
  | .lookForMissingHost => session.answer (Option.isNone (none : Option UnitHost))
  | .lookahead => .done session (.char (Host.lookahead session.host))
  | .atEnd => session.answer (Host.atEnd session.host)
  | .atRegionStart => session.answer (Host.atRegionStart session.host)
  | .advance => session.moved (Host.advance session.host)
  | .skip => session.moved (Host.skip session.host)
  | .markEnd => session.moved (Host.markEnd session.host)
  | .skipLine => (LineHost.skipLine session.host).andThen fun _ host => session.moved host
  | .setSymbol kind => session.moved (session.host.setSymbol kind)
  | .semicolon => session.call .semicolon
  | .comment => session.call .comment
  | .filler => session.call .filler

def step (session : UnitSession) (step : UnitStep) : Outcome UnitSession UnitReply :=
  { session with host := session.host.clearCalls }.act step

def run (session : UnitSession) : List UnitStep -> List (Outcome UnitSession UnitReply)
  | [] => []
  | step :: rest =>
      let next := session.step step
      next :: next.host.run rest

/-!
## Length of a run
-/

@[simp] theorem length_run (session : UnitSession) (steps : List UnitStep) :
    (session.run steps).length = steps.length := by
  induction steps generalizing session with
  | nil => rfl
  | cons step rest ih => simp [run, ih]

end UnitSession
end StatementEnd
