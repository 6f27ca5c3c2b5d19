import StatementEnd.Text.Reader

/-!
# Sessions on a reader

A run of steps on one reader. A session keeps a second reader, the one that was
saved last, to go back to; at first it is the reader at the start of the text. A
slice answers with a text, every other step with nothing.
-/

namespace StatementEnd

structure ReaderSession where
  reader : Text.Reader
  saved : Text.Reader

inductive ReaderStep where
  | advance
  | seek (offset : Nat)
  | toLineEnd
  | slice (start stop : Nat)
  | save
  | restore
  deriving DecidableEq, Repr

namespace ReaderSession

def ofString (text : String) : ReaderSession where
  reader := .ofString text
  saved := .ofString text

def step (session : ReaderSession) : ReaderStep -> ReaderSession × Option String
  | .advance => ({ session with reader := session.reader.advance }, none)
  | .seek offset => ({ session with reader := session.reader.seek offset }, none)
  | .toLineEnd => ({ session with reader := session.reader.toLineEnd }, none)
  | .slice start stop => (session, some (session.reader.slice start stop))
  | .save => ({ session with saved := session.reader }, none)
  | .restore => ({ session with reader := session.saved }, none)

def run (session : ReaderSession) : List ReaderStep -> List (Text.Reader × Option String)
  | [] => []
  | step :: rest =>
      let next := session.step step
      (next.1.reader, next.2) :: next.1.run rest

/-!
## Length of a run
-/

@[simp] theorem length_run (session : ReaderSession) (steps : List ReaderStep) :
    (session.run steps).length = steps.length := by
  induction steps generalizing session with
  | nil => rfl
  | cons step rest ih => simp [run, ih]

end ReaderSession
end StatementEnd
