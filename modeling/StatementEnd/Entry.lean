import StatementEnd.Host.Units
import StatementEnd.Scanner

/-!
# Entry points

The calls that a parser makes on a scanner. Each of them takes arguments that may be
missing and answers without doing anything when one that it needs is.
-/

namespace StatementEnd
namespace Entry

/-- How many bytes a parser provides for a saved scanner. -/
def bufferSize : Nat := 1024

def create : Option Scanner := some .fresh

def destroy (_ : Option Scanner) : Option Scanner := none

def reset (scanner : Option Scanner) : Option Scanner := scanner.map .reset

/-- Saves a scanner in the part of a buffer that a parser provides for it; the bytes
behind that part stay as they are. -/
def serialize (scanner : Option Scanner) (buffer : Option (List UInt8)) :
    Nat × Option (List UInt8) :=
  match scanner, buffer with
  | some scanner, some buffer =>
      let saved := scanner.serialize (buffer.take bufferSize)
      (saved.1, some (saved.2 ++ buffer.drop bufferSize))
  | _, buffer => (0, buffer)

/-- Restores a scanner from a buffer; a missing buffer counts as an empty one. -/
def deserialize (scanner : Option Scanner) (bytes : Option (List UInt8)) :
    Option Scanner :=
  scanner.map fun scanner => scanner.deserialize (bytes.getD [])

/-- The outcome of a call that could not scan. -/
def refuse (host : Option UnitHost) (event : Event) : Outcome (Option UnitHost) Bool :=
  (Outcome.done host false).report event

/-- Runs a scan on a host and tells the host the token that was produced. -/
def scanHost (scanner : Scanner) (candidates : Candidates) (host : UnitHost) :
    Outcome UnitHost Bool :=
  (scanner.scan candidates host).andThen fun kind? host =>
    match kind? with
    | some kind => .done (host.setSymbol kind) true
    | none => .done host false

/-- Scans for the candidates in a table, of which only the flags of the known kinds are
read. The scanner is looked for first, then the host, then the table. -/
def scan (scanner : Option Scanner) (host : Option UnitHost)
    (table : Option (List Bool)) : Outcome (Option UnitHost) Bool :=
  match scanner, host, table with
  | none, host, _ => refuse host .scannerMissing
  | some _, none, _ => refuse none .hostMissing
  | some _, some host, none => refuse (some host) .tableMissing
  | some scanner, some host, some table =>
      match Candidates.ofTable (table.take TokenKind.count) with
      | .error error => refuse (some host) (.tableRejected error)
      | .ok candidates =>
          (scanHost scanner candidates host).andThen fun produced host =>
            .done (some host) produced

/-!
## Saving
-/

/-- A scanner carries nothing, so saving it leaves every buffer as it is. -/
theorem serialize_eq (scanner : Option Scanner) (buffer : Option (List UInt8)) :
    serialize scanner buffer = (0, buffer) := by
  cases scanner with
  | none => rfl
  | some scanner =>
      cases buffer with
      | none => rfl
      | some bytes =>
          rw [serialize, Scanner.serialize, List.take_append_drop]

end Entry
end StatementEnd
