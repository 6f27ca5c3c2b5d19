import StatementEnd.Scan

/-!
# The scanner between scans

A grammar's parser keeps one scanner through a parse and saves and restores it
around every attempt it may take back. Every decision is made from the text
ahead alone, so the scanner carries nothing, and what is saved of it is empty.
-/

namespace StatementEnd

/-- What a scanner remembers from one scan to the next: nothing. -/
structure Scanner where
  deriving DecidableEq, Repr, Inhabited

namespace Scanner

def fresh : Scanner := {}

def reset (_ : Scanner) : Scanner := fresh

/-- Writes the scanner at the start of a buffer. The first component is the number of
bytes written, the second the buffer afterwards. -/
def serialize (_ : Scanner) (buffer : List UInt8) : Nat × List UInt8 :=
  (0, buffer)

/-- Reads the scanner back from bytes that were written before. -/
def deserialize (_ : Scanner) (_ : List UInt8) : Scanner := fresh

/-- Tries the candidates at the position of a host. -/
def scan {σ : Type} [LineHost σ] (_ : Scanner) (candidates : Candidates) (host : σ) :
    Outcome σ (Option TokenKind) :=
  scanToken candidates host

end Scanner
end StatementEnd
