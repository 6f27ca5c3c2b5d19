import StatementEnd.Text.Padded
import StatementEnd.Text.Utf8

/-!
# Reading a text

A reader is a byte offset into a padded text. It shows the byte and the
character at the offset, steps over one sequence at a time, and can be put at
any offset. The end of the text is told from a zero byte inside the text by the
offset; a reader that stands inside a sequence shows U+FFFD there and steps
byte by byte to the next sequence.
-/

namespace StatementEnd
namespace Text

/-- A position in a padded text. -/
structure Reader where
  text : PaddedText
  pos : Nat := 0

namespace Reader

/-- A reader at the start of a text. -/
def ofString (text : String) : Reader where
  text := PaddedText.ofString text

/-- The byte at the position, zero at the end. -/
def byte (reader : Reader) : UInt8 :=
  reader.text.byteAt reader.pos

/-- The bytes of the sequence that the byte at the position leads. -/
def window (reader : Reader) : ByteArray :=
  reader.text.bytes.extract reader.pos (reader.pos + Utf8.width reader.byte)

/-- The character at the position, U+0000 at the end. -/
def char (reader : Reader) : Char :=
  let lead := reader.byte
  if lead < 0x80 then Char.ofUInt8 lead else Utf8.decode reader.window

/-- Whether the position is the end of the text. -/
def atEnd (reader : Reader) : Bool :=
  reader.byte == 0 && reader.text.length ≤ reader.pos

/-- Moves to an offset, or to the end when the offset lies beyond it. -/
def seek (reader : Reader) (offset : Nat) : Reader :=
  { reader with pos := min offset reader.text.length }

/-- Steps over one sequence; at the end nothing moves. -/
def advance (reader : Reader) : Reader :=
  if reader.atEnd then reader
  else
    let target := reader.pos + Utf8.width reader.byte
    { reader with pos := min target reader.text.length }

/-- Moves to the next newline byte, or to the end. -/
def toLineEnd (reader : Reader) : Reader :=
  { reader with pos := reader.text.newlineFrom reader.pos }

/-- The text between two offsets, both cut back to the length and the first to the
second; empty when an offset splits a sequence. -/
def slice (reader : Reader) (start stop : Nat) : String :=
  let last := min stop reader.text.length
  let first := min start last
  (String.fromUTF8? (reader.text.bytes.extract first last)).getD ""

/-!
## Moves keep the text
-/

@[simp] theorem text_ofString (text : String) :
    (ofString text).text = PaddedText.ofString text := rfl

@[simp] theorem text_seek (reader : Reader) (offset : Nat) :
    (reader.seek offset).text = reader.text := rfl

@[simp] theorem pos_seek (reader : Reader) (offset : Nat) :
    (reader.seek offset).pos = min offset reader.text.length := rfl

@[simp] theorem text_advance (reader : Reader) :
    reader.advance.text = reader.text := by
  unfold advance
  split <;> rfl

@[simp] theorem text_toLineEnd (reader : Reader) :
    reader.toLineEnd.text = reader.text := rfl

theorem advance_of_atEnd {reader : Reader} (h : reader.atEnd = true) :
    reader.advance = reader := by
  simp [advance, h]

end Reader
end Text
end StatementEnd
