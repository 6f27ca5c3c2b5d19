import StatementEnd.Text.Reader

/-!
# Readers at character boundaries

A reader stands at a boundary when its text splits into the characters before the
position and those from it on. At a boundary a reader shows the first of the
characters that are left, and one step takes it past that character to the next
boundary; where none is left it is at the end and shows U+0000.
-/

namespace StatementEnd
namespace Text
namespace Reader

/-- The reader stands in a text between the characters of its front and those of its
back. -/
structure Between (reader : Reader) (front back : List Char) : Prop where
  text : reader.text = .pad (String.ofList (front ++ back))
  pos : reader.pos = (String.ofList front).utf8ByteSize

theorem between_ofString (source : String) :
    (ofString source).Between [] (kept source).toList := by
  constructor
  · rw [text_ofString, List.nil_append, String.ofList_toList]
    rfl
  · rfl

variable {reader : Reader} {front back : List Char} {c : Char}

theorem bytes_of_between (h : reader.Between front back) :
    exists padding : Nat, 0 < padding ∧ reader.text.bytes =
      front.utf8Encode ++ (back.utf8Encode ++ PaddedText.zeros padding) := by
  let size := (String.ofList (front ++ back)).utf8ByteSize
  refine ⟨PaddedText.paddedSize size - size, ?_, ?_⟩
  · exact Nat.sub_pos_of_lt (PaddedText.lt_paddedSize size)
  · rw [h.text]
    simp only [PaddedText.pad, String.toUTF8_eq_toByteArray, String.toByteArray_ofList,
      List.utf8Encode_append, ByteArray.append_assoc, size]

theorem pos_of_between (h : reader.Between front back) :
    reader.pos = front.utf8Encode.size := by
  rw [h.pos]
  rfl

theorem length_of_between (h : reader.Between front back) :
    reader.text.length = reader.pos + back.utf8Encode.size := by
  rw [h.text, pos_of_between h]
  change (String.ofList (front ++ back)).toByteArray.size = _
  simp

/-- The byte at the position is the first of what stands behind it. -/
theorem byte_of_between (h : reader.Between front back) {lead : UInt8}
    (hstarts : forall padding, 0 < padding ->
      exists more, back.utf8Encode ++ PaddedText.zeros padding = [lead].toByteArray ++ more) :
    reader.byte = lead := by
  rcases bytes_of_between h with ⟨padding, hpositive, hbytes⟩
  rcases hstarts padding hpositive with ⟨more, hsplit⟩
  rw [hsplit] at hbytes
  have hsize : reader.text.bytes.size = front.utf8Encode.size + (1 + more.size) := by
    rw [hbytes]
    simp
  have hin : reader.pos < reader.text.bytes.size := by
    rw [hsize, pos_of_between h]
    omega
  unfold byte PaddedText.byteAt
  rw [dif_pos hin]
  simp only [hbytes, pos_of_between h]
  rw [ByteArray.getElem_append_right (by omega)]
  rw [ByteArray.getElem_append_left (by simp)]
  simp

theorem byte_of_between_nil (h : reader.Between front []) : reader.byte = 0 := by
  apply byte_of_between h
  intro padding hpositive
  cases padding with
  | zero => omega
  | succ padding =>
      refine ⟨PaddedText.zeros padding, ?_⟩
      simp only [List.utf8Encode_nil, ByteArray.empty_append, PaddedText.zeros]
      rw [← List.toByteArray_append]
      rfl

theorem byte_of_between_cons (h : reader.Between front (c :: back)) {lead : UInt8}
    {rest : List UInt8} (hencoded : String.utf8EncodeChar c = lead :: rest) :
    reader.byte = lead := by
  apply byte_of_between h
  intro padding _
  refine ⟨rest.toByteArray ++ (back.utf8Encode ++ PaddedText.zeros padding), ?_⟩
  rw [List.utf8Encode_cons, List.utf8Encode_singleton, hencoded, ← ByteArray.append_assoc,
    ← ByteArray.append_assoc, ← List.toByteArray_append]
  simp [ByteArray.append_assoc]

theorem width_of_between_cons (h : reader.Between front (c :: back)) :
    Utf8.width reader.byte = c.utf8Size := by
  rcases Utf8.exists_head c with ⟨lead, rest, hencoded⟩
  rw [byte_of_between_cons h hencoded, Utf8.width_head c hencoded]

theorem length_of_between_cons (h : reader.Between front (c :: back)) :
    reader.pos + c.utf8Size + back.utf8Encode.size = reader.text.length := by
  rw [length_of_between h, List.utf8Encode_cons, List.utf8Encode_singleton]
  simp
  omega

/-!
## What a reader shows at a boundary
-/

theorem atEnd_of_between_nil (h : reader.Between front []) : reader.atEnd = true := by
  simp [atEnd, byte_of_between_nil h, length_of_between h]

theorem atEnd_of_between_cons (h : reader.Between front (c :: back)) :
    reader.atEnd = false := by
  have hsize := length_of_between_cons h
  have hpositive := c.utf8Size_pos
  simp only [atEnd, Bool.and_eq_false_iff, decide_eq_false_iff_not]
  right
  omega

theorem advance_of_between_cons (h : reader.Between front (c :: back)) :
    reader.advance.Between (front ++ [c]) back := by
  constructor
  · rw [text_advance, h.text]
    simp
  · have hsize := length_of_between_cons h
    simp only [advance, atEnd_of_between_cons h, width_of_between_cons h]
    change min (reader.pos + c.utf8Size) reader.text.length =
      (String.ofList (front ++ [c])).toByteArray.size
    rw [Nat.min_eq_left (by omega), pos_of_between h]
    simp [List.utf8Encode_singleton]

theorem char_of_between_nil (h : reader.Between front []) : reader.char = '\x00' := by
  simp only [char, byte_of_between_nil h]
  rfl

theorem window_of_between_cons (h : reader.Between front (c :: back)) :
    reader.window = (String.utf8EncodeChar c).toByteArray := by
  rcases bytes_of_between h with ⟨padding, _, hbytes⟩
  rw [window, width_of_between_cons h, hbytes, pos_of_between h, List.utf8Encode_cons,
    List.utf8Encode_singleton, ByteArray.append_assoc]
  have hshift := ByteArray.extract_append_size_add (a := front.utf8Encode)
    (b := (String.utf8EncodeChar c).toByteArray
      ++ (back.utf8Encode ++ PaddedText.zeros padding)) (i := 0) (j := c.utf8Size)
  rw [Nat.add_zero] at hshift
  rw [hshift]
  exact ByteArray.extract_append_eq_left (by simp)

theorem char_of_between_cons (h : reader.Between front (c :: back)) : reader.char = c := by
  rcases Utf8.exists_head c with ⟨lead, rest, hencoded⟩
  simp only [char, byte_of_between_cons h hencoded]
  split
  · next hascii => exact Utf8.ofUInt8_head c hencoded hascii
  · rw [window_of_between_cons h, Utf8.decode_encode]

end Reader
end Text
end StatementEnd
