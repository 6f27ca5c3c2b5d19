import StatementEnd.Host.Text
import StatementEnd.Routine
import StatementEnd.Scanner

/-!
# Sessions on a text

A run of steps on one text host and one scanner. A session keeps a copy of the
host to go back to; at first it is the host at the start of the text. A step that
replaces the scanner answers whether it is the scanner of a new parse.
-/

namespace StatementEnd

structure TextSession where
  host : TextHost
  saved : TextHost
  scanner : Scanner := .fresh

inductive TextStep where
  | advance
  | skip
  | markEnd
  | skipLine
  | seek (offset : Nat)
  | regions (positions : List Nat)
  | save
  | restore
  | scan (request : Candidates.Request)
  | semicolon
  | comment
  | filler
  | reset
  | serialize (buffer : List UInt8)
  | deserialize (bytes : List UInt8)
  deriving DecidableEq, Repr

inductive TextReply where
  | nothing
  | verdict (verdict : Verdict)
  | refused (error : TableError)
  | saved (written : Nat) (buffer : List UInt8)
  deriving DecidableEq, Repr

namespace TextSession

def ofString (text : String) : TextSession where
  host := .ofString text
  saved := .ofString text

def moved (session : TextSession) (host : TextHost) : Outcome TextSession TextReply :=
  .done { session with host := host } .nothing

def call (session : TextSession) (routine : Routine) : Outcome TextSession TextReply :=
  (routine.run session.host).andThen fun verdict host =>
    .done { session with host := host } (.verdict verdict)

def withScanner (session : TextSession) (scanner : Scanner) :
    Outcome TextSession TextReply :=
  .done { session with scanner := scanner } (.verdict (.flag (scanner == .fresh)))

def step (session : TextSession) : TextStep -> Outcome TextSession TextReply
  | .advance => session.moved (Host.advance session.host)
  | .skip => session.moved (Host.skip session.host)
  | .markEnd => session.moved (Host.markEnd session.host)
  | .skipLine => (LineHost.skipLine session.host).andThen fun _ host => session.moved host
  | .seek offset => session.moved (session.host.seek offset)
  | .regions positions => session.moved (session.host.withRegions positions)
  | .save => .done { session with saved := session.host } .nothing
  | .restore => session.moved session.saved
  | .scan request =>
      match Candidates.ofRequest request with
      | .error error => .done session (.refused error)
      | .ok candidates => session.call (.scan candidates)
  | .semicolon => session.call .semicolon
  | .comment => session.call .comment
  | .filler => session.call .filler
  | .reset => session.withScanner session.scanner.reset
  | .serialize buffer =>
      let saved := session.scanner.serialize buffer
      .done session (.saved saved.1 saved.2)
  | .deserialize bytes => session.withScanner (session.scanner.deserialize bytes)

def run (session : TextSession) : List TextStep -> List (Outcome TextSession TextReply)
  | [] => []
  | step :: rest =>
      let next := session.step step
      next :: next.host.run rest

/-!
## Length of a run
-/

@[simp] theorem length_run (session : TextSession) (steps : List TextStep) :
    (session.run steps).length = steps.length := by
  induction steps generalizing session with
  | nil => rfl
  | cons step rest ih => simp [run, ih]

end TextSession
end StatementEnd
