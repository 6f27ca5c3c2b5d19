/-!
# Padded texts

A text is kept as its bytes followed by zero bytes. Offsets are 32-bit numbers:
of a text that they do not reach to the end, only the front is kept that they do
reach, cut between two characters. At least one zero byte follows what is kept,
so that a byte can be read at its end without a test, and the storage is filled up
to a whole number of 64-byte blocks. The blocks alone do not make room for a
sequence of four bytes at the last byte; that a sequence never runs past the
storage rests on the kept bytes being whole sequences.
-/

namespace StatementEnd
namespace Text

/-!
## Long texts
-/

/-- The characters in front whose sequences fit into a number of bytes. -/
def fitting : Nat -> List Char -> List Char
  | _, [] => []
  | room, c :: rest =>
      if c.utf8Size ≤ room then c :: fitting (room - c.utf8Size) rest else []

/-- What is kept of a text: its longest front whose end a 32-bit offset reaches. -/
def kept (source : String) : String :=
  if source.utf8ByteSize < UInt32.size then source
  else String.ofList (fitting (UInt32.size - 1) source.toList)

theorem kept_of_fits {source : String} (hfits : source.utf8ByteSize < UInt32.size) :
    kept source = source :=
  if_pos hfits

/-!
## Storage
-/

structure PaddedText where
  bytes : ByteArray
  /-- The length of the text without its padding. -/
  length : Nat

namespace PaddedText

def blockSize : Nat := 64

/-- The least multiple of the block size above a length. -/
def paddedSize (length : Nat) : Nat :=
  (length / blockSize + 1) * blockSize

def zeros (count : Nat) : ByteArray :=
  (List.replicate count (0 : UInt8)).toByteArray

/-- The storage of a text that is kept whole. -/
def pad (text : String) : PaddedText where
  bytes := text.toUTF8 ++ zeros (paddedSize text.utf8ByteSize - text.utf8ByteSize)
  length := text.utf8ByteSize

def ofString (source : String) : PaddedText :=
  pad (kept source)

/-- The byte at an offset; beyond the padding every byte reads as zero. -/
def byteAt (text : PaddedText) (offset : Nat) : UInt8 :=
  if h : offset < text.bytes.size then text.bytes[offset] else 0

def content (text : PaddedText) : ByteArray :=
  text.bytes.extract 0 text.length

def toString (text : PaddedText) : String :=
  (String.fromUTF8? text.content).getD ""

def isEmpty (text : PaddedText) : Bool :=
  text.length == 0

/-- The offset of the first newline byte at or after an offset, and the length when
there is none. -/
def newlineFrom (text : PaddedText) (offset : Nat) : Nat :=
  if offset < text.length then
    if text.byteAt offset = 0x0A then offset else text.newlineFrom (offset + 1)
  else text.length
termination_by text.length - offset

/-!
## Sizes
-/

theorem lt_paddedSize (length : Nat) : length < paddedSize length := by
  simp only [paddedSize, blockSize]
  omega

theorem blockSize_dvd_paddedSize (length : Nat) : blockSize ∣ paddedSize length :=
  ⟨length / blockSize + 1, Nat.mul_comm _ _⟩

@[simp] theorem size_zeros (count : Nat) : (zeros count).size = count := by
  simp [zeros]

@[simp] theorem length_pad (text : String) : (pad text).length = text.utf8ByteSize := rfl

theorem ofString_of_fits {source : String} (hfits : source.utf8ByteSize < UInt32.size) :
    ofString source = pad source := by
  rw [ofString, kept_of_fits hfits]

theorem size_pad (text : String) :
    (pad text).bytes.size = paddedSize text.utf8ByteSize := by
  have h := lt_paddedSize text.utf8ByteSize
  simp only [pad, ByteArray.size_append, size_zeros]
  change text.utf8ByteSize + _ = _
  omega

end PaddedText
end Text
end StatementEnd
