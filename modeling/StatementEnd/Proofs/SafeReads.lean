import StatementEnd.Proofs.Reading
import StatementEnd.Session.Reader

/-!
# Reads inside the padding

A reader tests no bounds. Each byte that it looks at, at its position or in the sequence that
starts there, lies in the padded storage of its text, and each of its moves stays in the text,
so that offsets of 32 bits are wide enough and nothing is ever cut off at the end. This holds
after any moves, also inside a sequence and at zero bytes of the text.
-/

namespace StatementEnd
namespace Text

namespace PaddedText

/-- The size of the storage for a length, found by clearing the low bits of a word. -/
def maskedSize (length : UInt64) : UInt64 :=
  (length + 1 + 64 - 1) &&& ~~~(64 - 1)

/-- A text is stored with its padding: the bytes of the text, then zero bytes up to the next
block boundary. -/
structure Stores (stored : PaddedText) (text : String) : Prop where
  length : stored.length = text.utf8ByteSize
  content : stored.content = text.toUTF8
  toString : stored.toString = text
  padding : forall i (h : i < stored.bytes.size), text.utf8ByteSize ≤ i -> stored.bytes[i] = 0
  lt_size : text.utf8ByteSize < stored.bytes.size
  blocks : blockSize ∣ stored.bytes.size
  size_le : forall size, blockSize ∣ size -> text.utf8ByteSize < size ->
    stored.bytes.size ≤ size
  size_masked : stored.bytes.size = (maskedSize (.ofNat text.utf8ByteSize)).toNat

variable {text : String} {length : Nat}

/-!
## Storage
-/

theorem paddedSize_le_of_dvd {size : Nat} (hdvd : blockSize ∣ size) (hlt : length < size) :
    paddedSize length ≤ size := by
  rcases hdvd with ⟨count, hcount⟩
  have hblocks : length / blockSize < count := by
    apply (Nat.div_lt_iff_lt_mul (by decide)).mpr
    rw [Nat.mul_comm, ← hcount]
    exact hlt
  rw [paddedSize, hcount, Nat.mul_comm blockSize]
  exact Nat.mul_le_mul_right _ hblocks

/-- Clearing the low bits of a word rounds it down to a block boundary. -/
theorem and_mask {value : Nat} (h : value < UInt64.size) :
    value &&& UInt64.size - blockSize = value / blockSize * blockSize := by
  have hmask : UInt64.size - blockSize = (2 ^ 58 - 1) <<< 6 := rfl
  have hround : value / blockSize * blockSize = (value >>> 6) <<< 6 := by
    rw [Nat.shiftLeft_eq, Nat.shiftRight_eq_div_pow]
    rfl
  apply Nat.eq_of_testBit_eq
  intro i
  rw [hmask, hround, Nat.testBit_and, Nat.testBit_shiftLeft, Nat.testBit_shiftLeft,
    Nat.testBit_shiftRight, Nat.testBit_two_pow_sub_one]
  -- bits below the block are cleared, and above the word there are none
  by_cases hlow : 6 ≤ i
  · rw [Nat.add_sub_of_le hlow]
    by_cases hhigh : i < 64
    · have hin : i - 6 < 58 := by omega
      simp [hlow, hin]
    · have hpow : UInt64.size ≤ 2 ^ i :=
        Nat.pow_le_pow_right Nat.two_pos (Nat.le_of_not_lt hhigh)
      rw [Nat.testBit_lt_two_pow (Nat.lt_of_lt_of_le h hpow)]
      simp
  · simp [hlow]

theorem toNat_maskedSize (h : length < UInt32.size) :
    (maskedSize (.ofNat length)).toNat = paddedSize length := by
  have hsum : UInt64.ofNat length + 1 + 64 - 1 = UInt64.ofNat (length + blockSize) := by
    rw [UInt64.ofNat_add]
    change _ = UInt64.ofNat length + 64
    grind
  have hsmall : length + blockSize < UInt64.size := by
    change length < 4294967296 at h
    change length + 64 < 18446744073709551616
    omega
  have hmask : (~~~(64 - 1) : UInt64).toNat = UInt64.size - blockSize := rfl
  rw [maskedSize, UInt64.toNat_and, hsum, UInt64.toNat_ofNat_of_lt' hsmall, hmask,
    and_mask hsmall, paddedSize, Nat.add_div_right length (by decide)]

theorem stores_ofString (h : text.utf8ByteSize < UInt32.size) :
    (ofString text).Stores text := by
  have hcontent : (pad text).content = text.toUTF8 := ByteArray.extract_append_eq_left rfl
  rw [ofString_of_fits h]
  constructor
  · rfl
  · exact hcontent
  · have hdecode : String.fromUTF8? text.toUTF8 = some text := dif_pos text.isValidUTF8
    rw [toString, hcontent, hdecode, Option.getD_some]
  · intro i hi hpad
    have hbehind : text.toUTF8.size ≤ i := hpad
    simp only [pad]
    rw [ByteArray.getElem_append_right hbehind]
    simp [zeros, List.getElem_toByteArray]
  · rw [size_pad]
    exact lt_paddedSize _
  · rw [size_pad]
    exact blockSize_dvd_paddedSize _
  · intro size hdvd hlt
    rw [size_pad]
    exact paddedSize_le_of_dvd hdvd hlt
  · rw [size_pad, toNat_maskedSize h]

end PaddedText

namespace Reader

/-- The bytes from the position to the end of the text, in which a newline is looked for. -/
def rest (reader : Reader) : ByteArray :=
  reader.text.bytes.extract reader.pos reader.text.length

/-- All that a reader looks at lies in the storage of a text, and all of its moves end in
the text, with no offset beyond a word of 32 bits and none cut off. -/
structure ReadsInside (reader : Reader) (text : String) : Prop where
  text_eq : reader.text = .ofString text
  pos_le : reader.pos ≤ text.utf8ByteSize
  atEnd_iff : reader.atEnd = true <-> reader.pos = text.utf8ByteSize
  byte : exists h : reader.pos < reader.text.bytes.size,
    reader.byte = reader.text.bytes[reader.pos]
  window : reader.pos + Utf8.width reader.byte ≤ reader.text.bytes.size
  line : reader.toLineEnd.pos = reader.pos + reader.rest.data.toList.findIdx (· == 0x0A)
  size_rest : reader.rest.size = text.utf8ByteSize - reader.pos
  rests : reader.atEnd = true -> reader.advance = reader
  fits : reader.atEnd = false -> reader.pos + Utf8.width reader.byte ≤ text.utf8ByteSize
  moves : reader.atEnd = false -> reader.advance.pos = reader.pos + Utf8.width reader.byte
  word : reader.atEnd = false ->
    (UInt32.ofNat reader.pos + UInt32.ofNat (Utf8.width reader.byte)).toNat =
      reader.advance.pos

variable {reader : Reader} {text : String}

/-!
## Reads
-/

theorem pos_lt_size (h : reader.Over text) : reader.pos < reader.text.bytes.size := by
  have hle := h.pos_le
  rw [length_octets] at hle
  rw [h.text_eq, PaddedText.size_pad]
  exact Nat.lt_of_le_of_lt hle (PaddedText.lt_paddedSize _)

/-- Before the end the sequence at the position lies in the text, up to its last byte. -/
theorem width_fits (h : reader.Over text) (hend : reader.atEnd = false) :
    reader.pos + Utf8.width reader.byte ≤ text.utf8ByteSize := by
  rcases exists_octet h hend with ⟨octet, hoctet⟩
  by_cases hfirst : octet.IsUTF8FirstByte
  · rcases exists_between h hoctet hfirst with ⟨front, back, c, htext, hpos, hbetween⟩
    have hsize := length_of_between_cons hbetween
    rw [length_of_over h, length_octets] at hsize
    rw [width_of_between_cons hbetween, ← hsize]
    exact Nat.le_add_right _ _
  · have hlt := (List.getElem?_eq_some_iff.mp hoctet).1
    rw [length_octets] at hlt
    rw [byte_of_over h hoctet, width_of_not_isUTF8FirstByte hfirst]
    exact hlt

theorem window_inside (h : reader.Over text) :
    reader.pos + Utf8.width reader.byte ≤ reader.text.bytes.size := by
  cases hend : reader.atEnd with
  | true =>
      have hzero := byte_of_between_nil (between_of_end h ((atEnd_iff h).mp hend))
      rw [hzero]
      exact pos_lt_size h
  | false =>
      have hfits := width_fits h hend
      have hsize := PaddedText.lt_paddedSize text.utf8ByteSize
      rw [← PaddedText.size_pad, ← h.text_eq] at hsize
      omega

/-!
## Moves
-/

theorem pos_advance_eq (h : reader.Over text) (hend : reader.atEnd = false) :
    reader.advance.pos = reader.pos + Utf8.width reader.byte := by
  simp only [advance, hend]
  rw [length_of_over h, length_octets]
  exact Nat.min_eq_left (width_fits h hend)

theorem octets_rest (h : reader.Over text) :
    reader.rest.data.toList = (octets text).drop reader.pos := by
  have hlength : reader.text.length = text.utf8ByteSize := by
    rw [length_of_over h, length_octets]
  rw [rest, extract_of_over h (Nat.le_of_eq hlength), hlength]
  have hbytes : text.toByteArray = (octets text).toByteArray := (toByteArray_octets text).symm
  rw [hbytes, ByteArray.data_extract, Array.toList_extract]
  rw [List.data_toByteArray, List.toList_toArray, List.extract_eq_take_drop]
  have hall : ((octets text).drop reader.pos).length = text.utf8ByteSize - reader.pos := by
    rw [List.length_drop, length_octets]
  exact List.take_of_length_le (Nat.le_of_eq hall)

theorem lineEnd_findIdx {bytes : List UInt8} {offset : Nat} (h : offset ≤ bytes.length) :
    LineEnd bytes offset (offset + (bytes.drop offset).findIdx (· == '\n'.toUInt8)) := by
  have hlength : (bytes.drop offset).length = bytes.length - offset := List.length_drop
  have hle : (bytes.drop offset).findIdx (· == '\n'.toUInt8) ≤ (bytes.drop offset).length :=
    List.findIdx_le_length
  constructor
  · exact Nat.le_add_right _ _
  · omega
  · intro i hfrom hto hnewline
    have hbefore : i - offset < (bytes.drop offset).findIdx (· == '\n'.toUInt8) := by omega
    have hother := List.not_of_lt_findIdx hbefore
    have hget : (bytes.drop offset)[i - offset]? = some '\n'.toUInt8 := by
      rw [List.getElem?_drop, Nat.add_sub_of_le hfrom, hnewline]
    rw [(List.getElem?_eq_some_iff.mp hget).2] at hother
    simp at hother
  · rcases Nat.lt_or_eq_of_le hle with hfound | hnone
    · right
      have hbyte := List.findIdx_getElem (w := hfound)
      rw [← List.getElem?_drop, List.getElem?_eq_getElem hfound]
      exact congrArg some (eq_of_beq hbyte)
    · left
      omega

/-- A newline is found at its place in the rest, and the end where there is none. -/
theorem pos_toLineEnd_eq (h : reader.Over text) :
    reader.toLineEnd.pos = reader.pos + reader.rest.data.toList.findIdx (· == 0x0A) := by
  rw [octets_rest h]
  exact lineEnd_unique (lineEnd_toLineEnd h) (lineEnd_findIdx h.pos_le)

theorem readsInside_of_over (h : reader.Over text) : reader.ReadsInside text where
  text_eq := by
    rw [h.text_eq, PaddedText.ofString_of_fits h.fits]
  pos_le := by
    rw [← length_octets]
    exact h.pos_le
  atEnd_iff := by
    rw [← length_octets]
    exact Reader.atEnd_iff h
  byte := ⟨pos_lt_size h, dif_pos (pos_lt_size h)⟩
  window := window_inside h
  line := pos_toLineEnd_eq h
  size_rest := by
    have hlength : reader.text.length = text.utf8ByteSize := by
      rw [length_of_over h, length_octets]
    have hlt := PaddedText.lt_paddedSize text.utf8ByteSize
    rw [rest, ByteArray.size_extract, hlength, h.text_eq, PaddedText.size_pad]
    omega
  rests := advance_of_atEnd
  fits := width_fits h
  moves := pos_advance_eq h
  word hend := by
    have hfits := width_fits h hend
    have hsize := h.fits
    rw [pos_advance_eq h hend]
    rw [UInt32.toNat_add, UInt32.toNat_ofNat_of_lt' (by omega),
      UInt32.toNat_ofNat_of_lt' (by omega)]
    exact Nat.mod_eq_of_lt (Nat.lt_of_le_of_lt hfits hsize)

end Reader
end Text

/-!
## Runs
-/

namespace ReaderSession

open Text

/-- The reader of the session stands in a text, and so does the one to go back to. -/
structure Over (session : ReaderSession) (text : String) : Prop where
  reader : session.reader.Over text
  saved : session.saved.Over text

variable {session : ReaderSession} {text : String}

theorem over_of_fits (hfits : text.utf8ByteSize < UInt32.size) : (ofString text).Over text :=
  ⟨Reader.over_of_fits hfits, Reader.over_of_fits hfits⟩

theorem over_step (h : session.Over text) (step : ReaderStep) :
    (session.step step).1.Over text := by
  cases step with
  | advance => exact ⟨Reader.over_advance h.reader, h.saved⟩
  | seek offset => exact ⟨Reader.over_seek h.reader offset, h.saved⟩
  | toLineEnd => exact ⟨Reader.over_toLineEnd h.reader, h.saved⟩
  | slice start stop => exact h
  | save => exact ⟨h.reader, h.reader⟩
  | restore => exact ⟨h.saved, h.saved⟩

theorem over_of_mem_run (h : session.Over text) {steps : List ReaderStep}
    {shown : Reader × Option String} (hmem : shown ∈ session.run steps) :
    shown.1.Over text := by
  induction steps generalizing session with
  | nil => cases hmem
  | cons step steps ih =>
      rw [run, List.mem_cons] at hmem
      rcases hmem with hnow | hlater
      · rw [hnow]
        exact (over_step h step).reader
      · exact ih (over_step h step) hlater

/-- A text that fits in 32 bits is stored with its padding, and wherever a reader is taken in
it, also inside a sequence, all that it looks at is stored and all of its moves end in the
text. -/
theorem reads_stay_inside (text : String) (hsize : text.utf8ByteSize < UInt32.size) :
    (PaddedText.ofString text).Stores text ∧
      (Reader.ofString text).ReadsInside text ∧
      forall steps shown, shown ∈ (ofString text).run steps -> shown.1.ReadsInside text := by
  have hstart := over_of_fits hsize
  refine ⟨PaddedText.stores_ofString hsize, ?_, ?_⟩
  · exact Reader.readsInside_of_over hstart.reader
  · intro steps shown hmem
    exact Reader.readsInside_of_over (over_of_mem_run hstart hmem)

theorem reads_stay_inside_torn_accent :
    "é\x00".utf8ByteSize < UInt32.size ∧
      (PaddedText.ofString "é\x00").Stores "é\x00" ∧
      ((ofString "é\x00").run [.seek 1, .advance, .advance]).map
        (fun shown => (shown.1.pos, shown.1.byte, shown.1.atEnd)) =
          [(1, 0xA9, false), (2, 0, false), (3, 0, true)] ∧
      forall shown, shown ∈ (ofString "é\x00").run [.seek 1, .advance, .advance] ->
        shown.1.ReadsInside "é\x00" := by
  have hsize : "é\x00".utf8ByteSize < UInt32.size := by decide +kernel
  have hreads := reads_stay_inside "é\x00" hsize
  exact ⟨hsize, hreads.1, by decide +kernel, hreads.2.2 _⟩

end ReaderSession
end StatementEnd
