import StatementEnd.Proofs.KeptText

/-!
# A reader at any offset

What a reader shows and where one step takes it, read off the bytes of its text.
An offset inside the sequence of a character is allowed: there the reader shows
U+FFFD and steps by one byte, so no step ever jumps over a boundary.
-/

namespace StatementEnd
namespace Text
namespace Reader

/-- The reader holds a text, which it keeps whole, and stands somewhere in it, its end
included. -/
structure Over (reader : Reader) (text : String) : Prop where
  text_eq : reader.text = .pad text
  fits : text.utf8ByteSize < UInt32.size
  pos_le : reader.pos ≤ (octets text).length

variable {reader : Reader} {text : String} {octet : UInt8}

theorem over_ofString (source : String) : (ofString source).Over (kept source) :=
  ⟨rfl, fits_kept source, Nat.zero_le _⟩

theorem over_of_fits (hfits : text.utf8ByteSize < UInt32.size) : (ofString text).Over text := by
  have h := over_ofString text
  rw [kept_of_fits hfits] at h
  exact h

theorem length_of_over (h : reader.Over text) :
    reader.text.length = (octets text).length := by
  rw [h.text_eq, PaddedText.length_pad, length_octets]

theorem over_seek (h : reader.Over text) (offset : Nat) : (reader.seek offset).Over text := by
  refine ⟨h.text_eq, h.fits, ?_⟩
  rw [pos_seek, length_of_over h]
  exact Nat.min_le_right _ _

theorem over_of_between {front back : List Char} (h : reader.Between front back)
    (htext : text.toList = front ++ back) (hfits : text.utf8ByteSize < UInt32.size) :
    reader.Over text := by
  refine ⟨?_, hfits, ?_⟩
  · rw [h.text, ← htext, String.ofList_toList]
  · rw [h.pos, ← length_encode, octets, htext, encode_append, List.length_append]
    exact Nat.le_add_right _ _

/-!
## The byte at the position
-/

theorem byteAt_pad {offset : Nat} (hoctet : (octets text)[offset]? = some octet) :
    (PaddedText.pad text).byteAt offset = octet := by
  rcases List.getElem?_eq_some_iff.mp hoctet with ⟨hlt, hget⟩
  have hsize : offset < (octets text).toByteArray.size := by simpa using hlt
  have hbytes : (PaddedText.pad text).bytes =
      (octets text).toByteArray ++ PaddedText.zeros
        (PaddedText.paddedSize text.utf8ByteSize - text.utf8ByteSize) := by
    rw [toByteArray_octets]
    rfl
  have hin : offset < (PaddedText.pad text).bytes.size := by
    rw [hbytes, ByteArray.size_append]
    omega
  unfold PaddedText.byteAt
  rw [dif_pos hin]
  simp only [hbytes]
  rw [ByteArray.getElem_append_left hsize, List.getElem_toByteArray, hget]

theorem byte_of_over (h : reader.Over text)
    (hoctet : (octets text)[reader.pos]? = some octet) : reader.byte = octet := by
  rw [byte, h.text_eq, byteAt_pad hoctet]

theorem between_of_end (h : reader.Over text) (hend : reader.pos = (octets text).length) :
    reader.Between text.toList [] := by
  constructor
  · rw [h.text_eq]
    simp
  · rw [hend, length_octets]
    simp

theorem atEnd_iff (h : reader.Over text) :
    reader.atEnd = true <-> reader.pos = (octets text).length := by
  constructor
  · intro hend
    have hle : reader.text.length ≤ reader.pos := by
      simp only [atEnd, Bool.and_eq_true, decide_eq_true_eq] at hend
      exact hend.2
    rw [length_of_over h] at hle
    exact Nat.le_antisymm h.pos_le hle
  · intro hend
    exact atEnd_of_between_nil (between_of_end h hend)

theorem exists_octet (h : reader.Over text) (hend : reader.atEnd = false) :
    exists octet, (octets text)[reader.pos]? = some octet := by
  have hne : reader.pos ≠ (octets text).length := by
    intro heq
    rw [(atEnd_iff h).mpr heq] at hend
    cases hend
  have hlt : reader.pos < (octets text).length := Nat.lt_of_le_of_ne h.pos_le hne
  exact ⟨(octets text)[reader.pos], List.getElem?_eq_getElem hlt⟩

theorem atEnd_of_octet (h : reader.Over text)
    (hoctet : (octets text)[reader.pos]? = some octet) : reader.atEnd = false := by
  rcases List.getElem?_eq_some_iff.mp hoctet with ⟨hlt, _⟩
  apply Bool.eq_false_iff.mpr
  intro hend
  rw [(atEnd_iff h).mp hend] at hlt
  exact Nat.lt_irrefl _ hlt

theorem between_of_boundary (h : reader.Over text) (hboundary : CharBoundary text reader.pos) :
    exists front back, text.toList = front ++ back ∧
      reader.pos = (encode front).length ∧ reader.Between front back := by
  rcases hboundary with ⟨front, back, htext, hpos⟩
  refine ⟨front, back, htext, hpos, ?_, ?_⟩
  · rw [← htext, String.ofList_toList, h.text_eq]
  · rw [hpos, length_encode]

/-- At a byte that leads a sequence the reader stands before a character. -/
theorem exists_between (h : reader.Over text)
    (hoctet : (octets text)[reader.pos]? = some octet) (hfirst : octet.IsUTF8FirstByte) :
    exists front back c,
      text.toList = front ++ c :: back ∧ reader.pos = (encode front).length ∧
        reader.Between front (c :: back) := by
  rcases between_of_boundary h (boundary_of_isUTF8FirstByte hoctet hfirst) with
    ⟨front, back, htext, hpos, hbetween⟩
  cases back with
  | nil =>
      rw [hpos, octets, htext, List.append_nil] at hoctet
      simp at hoctet
  | cons c back => exact ⟨front, back, c, htext, hpos, hbetween⟩

/-!
## The character at the position
-/

theorem char_of_ascii (h : reader.Over text)
    (hoctet : (octets text)[reader.pos]? = some octet) (hascii : octet < 0x80) :
    reader.char = Char.ofUInt8 octet := by
  simp only [char, byte_of_over h hoctet]
  rw [if_pos hascii]

theorem char_of_end (h : reader.Over text) (hend : reader.atEnd = true) :
    reader.char = '\x00' :=
  char_of_between_nil (between_of_end h ((atEnd_iff h).mp hend))

theorem window_head (hin : 0 < reader.window.size) : reader.window[0] = reader.byte := by
  have hlt : reader.pos < reader.text.bytes.size := by
    simp only [window, ByteArray.size_extract] at hin
    omega
  have hbyte : reader.byte = reader.text.bytes[reader.pos] := dif_pos hlt
  rw [hbyte]
  exact ByteArray.getElem_extract hin

/-- Inside a sequence the reader shows U+FFFD. -/
theorem char_of_inner (h : reader.Over text)
    (hoctet : (octets text)[reader.pos]? = some octet)
    (hinner : ¬ octet.IsUTF8FirstByte) : reader.char = Utf8.replacement := by
  have hbyte := byte_of_over h hoctet
  have hnone : reader.window.utf8DecodeChar? 0 = none := by
    apply Option.not_isSome_iff_eq_none.mp
    intro hsome
    have hfirst := ByteArray.isUTF8FirstByte_of_isSome_utf8DecodeChar? hsome
    rw [window_head, hbyte] at hfirst
    exact hinner hfirst
  have hhigh : ¬ octet < 0x80 := fun hlt => hinner (isUTF8FirstByte_of_ascii hlt)
  simp only [char, hbyte]
  rw [if_neg hhigh, Utf8.decode, hnone]
  rfl

theorem le_char_of_high (h : reader.Over text)
    (hoctet : (octets text)[reader.pos]? = some octet) (hhigh : ¬ octet < 0x80) :
    0x80 ≤ reader.char.val := by
  by_cases hfirst : octet.IsUTF8FirstByte
  · rcases exists_between h hoctet hfirst with ⟨front, back, c, htext, hpos, hbetween⟩
    rw [char_of_between_cons hbetween]
    apply UInt32.not_lt.mp
    intro hsmall
    have hsize : c.utf8Size = 1 := by
      apply Char.utf8Size_eq_one_iff.mpr
      rw [UInt32.lt_iff_toNat_lt] at hsmall
      rw [UInt32.le_iff_toNat_le]
      exact Nat.le_of_lt_succ hsmall
    have hwidth := width_of_between_cons hbetween
    have hencoded := String.utf8EncodeChar_eq_singleton hsize
    have hbyte := byte_of_between_cons hbetween hencoded
    rw [byte_of_over h hoctet] at hbyte
    apply hhigh
    rw [hbyte, UInt8.lt_iff_toNat_lt, UInt32.toNat_toUInt8]
    rw [UInt32.lt_iff_toNat_lt] at hsmall
    change c.val.toNat < 128 at hsmall
    show c.val.toNat % 256 < 128
    omega
  · rw [char_of_inner h hoctet hfirst]
    decide

theorem ofUInt8_toUInt8 {c : Char} (hascii : c.val < 0x80) :
    Char.ofUInt8 c.toUInt8 = c := by
  apply Char.ext
  apply UInt32.toNat_inj.mp
  rw [UInt32.lt_iff_toNat_lt] at hascii
  change c.val.toNat < 128 at hascii
  show (c.val.toUInt8.toUInt32).toNat = c.val.toNat
  rw [UInt8.toNat_toUInt32, UInt32.toNat_toUInt8]
  omega

theorem ofUInt8_eq_iff {c : Char} (hascii : c.val < 0x80) :
    Char.ofUInt8 octet = c <-> octet = c.toUInt8 := by
  constructor
  · intro heq
    rw [← heq]
    apply UInt8.toNat_inj.mp
    show octet.toNat = (octet.toUInt32.toUInt8).toNat
    simp
  · intro heq
    rw [heq, ofUInt8_toUInt8 hascii]

theorem toUInt8_lt {c : Char} (hascii : c.val < 0x80) : c.toUInt8 < 0x80 := by
  rw [UInt32.lt_iff_toNat_lt] at hascii
  change c.val.toNat < 128 at hascii
  rw [UInt8.lt_iff_toNat_lt]
  show (c.val.toUInt8).toNat < 128
  rw [UInt32.toNat_toUInt8]
  omega

/-- A plain character is shown exactly where its byte stands. -/
theorem char_eq_iff (h : reader.Over text) {c : Char} (hplain : IsPlain c) :
    reader.char = c <-> (octets text)[reader.pos]? = some c.toUInt8 := by
  cases hend : reader.atEnd with
  | true =>
      rw [char_of_end h hend, (atEnd_iff h).mp hend]
      simp [Ne.symm hplain.2]
  | false =>
      rcases exists_octet h hend with ⟨octet, hoctet⟩
      rw [hoctet, Option.some.injEq]
      by_cases hlow : octet < 0x80
      · rw [char_of_ascii h hoctet hlow, ofUInt8_eq_iff hplain.1]
      · constructor
        · intro heq
          have hhigh := le_char_of_high h hoctet hlow
          rw [heq] at hhigh
          exact absurd hplain.1 (UInt32.not_lt.mpr hhigh)
        · intro heq
          rw [heq] at hlow
          exact absurd (toUInt8_lt hplain.1) hlow

/-!
## One step

A step moves by at least one byte before the end, by exactly one over an ASCII byte,
and never past a boundary.
-/

theorem over_advance (h : reader.Over text) : reader.advance.Over text := by
  refine ⟨?_, h.fits, ?_⟩
  · rw [text_advance, h.text_eq]
  · cases hend : reader.atEnd with
    | true =>
        rw [advance_of_atEnd hend]
        exact h.pos_le
    | false =>
        simp only [advance, hend]
        rw [← length_of_over h]
        exact Nat.min_le_right _ _

theorem advance_eq (reader : Reader) :
    reader.advance = { reader with pos := reader.advance.pos } := by
  unfold advance
  split <;> rfl

theorem pos_advance_of_octet (h : reader.Over text)
    (hoctet : (octets text)[reader.pos]? = some octet) :
    reader.advance.pos = min (reader.pos + Utf8.width octet) (octets text).length := by
  simp only [advance, atEnd_of_octet h hoctet, byte_of_over h hoctet, length_of_over h]
  rfl

theorem pos_advance_of_width_one (h : reader.Over text)
    (hoctet : (octets text)[reader.pos]? = some octet) (hwidth : Utf8.width octet = 1) :
    reader.advance.pos = reader.pos + 1 := by
  have hlt := (List.getElem?_eq_some_iff.mp hoctet).1
  rw [pos_advance_of_octet h hoctet, hwidth]
  exact Nat.min_eq_left hlt

theorem pos_advance_of_ascii (h : reader.Over text)
    (hoctet : (octets text)[reader.pos]? = some octet) (hascii : octet < 0x80) :
    reader.advance.pos = reader.pos + 1 :=
  pos_advance_of_width_one h hoctet (Utf8.width_of_ascii hascii)

theorem pos_lt_advance (h : reader.Over text) (hend : reader.atEnd = false) :
    reader.pos < reader.advance.pos := by
  rcases exists_octet h hend with ⟨octet, hoctet⟩
  have hlt := (List.getElem?_eq_some_iff.mp hoctet).1
  have hwidth := Utf8.width_pos octet
  rw [pos_advance_of_octet h hoctet]
  omega

/-- A step before the end leaves less of the text. -/
theorem left_advance_lt (h : reader.Over text) (hend : reader.atEnd = false) :
    reader.advance.text.length - reader.advance.pos < reader.text.length - reader.pos := by
  have hlt := pos_lt_advance h hend
  have hle := (over_advance h).pos_le
  rw [text_advance, length_of_over h]
  omega

theorem pos_le_advance (h : reader.Over text) : reader.pos ≤ reader.advance.pos := by
  cases hend : reader.atEnd with
  | true => exact Nat.le_of_eq (congrArg pos (advance_of_atEnd hend).symm)
  | false => exact Nat.le_of_lt (pos_lt_advance h hend)

theorem boundary_advance (h : reader.Over text) (hboundary : CharBoundary text reader.pos) :
    CharBoundary text reader.advance.pos := by
  rcases between_of_boundary h hboundary with ⟨front, back, htext, _, hbetween⟩
  cases back with
  | nil =>
      rw [advance_of_atEnd (atEnd_of_between_nil hbetween)]
      exact hboundary
  | cons c back =>
      refine ⟨front ++ [c], back, by simp [htext], ?_⟩
      rw [(advance_of_between_cons hbetween).pos, length_encode]

theorem pos_advance_le_of_boundary (h : reader.Over text) {stop : Nat}
    (hstop : CharBoundary text stop) (hlt : reader.pos < stop) : reader.advance.pos ≤ stop := by
  cases hend : reader.atEnd with
  | true =>
      rw [advance_of_atEnd hend]
      exact Nat.le_of_lt hlt
  | false =>
      rcases exists_octet h hend with ⟨octet, hoctet⟩
      by_cases hfirst : octet.IsUTF8FirstByte
      · rcases exists_between h hoctet hfirst with ⟨front, back, c, htext, hpos, hbetween⟩
        have hnext : reader.advance.pos = (encode front).length + c.utf8Size := by
          rw [(advance_of_between_cons hbetween).pos, ← length_encode]
          simp
        apply Nat.le_of_not_lt
        intro hinside
        have hinner : stop - (encode front).length < c.utf8Size := by omega
        have hsplit : stop = (encode front).length + (stop - (encode front).length) := by
          omega
        have hlength : stop < (octets text).length :=
          Nat.lt_of_lt_of_le hinside (over_advance h).pos_le
        have hthere := List.getElem?_eq_getElem hlength
        generalize (octets text)[stop] = inside at hthere
        have hlead := isUTF8FirstByte_of_boundary hstop hthere
        rw [hsplit] at hthere
        have hzero := (isUTF8FirstByte_iff_inner htext hinner hthere).mp hlead
        omega
      · rw [pos_advance_of_width_one h hoctet (width_of_not_isUTF8FirstByte hfirst)]
        exact hlt

/-!
## The end of a line
-/

/-- The first newline at or behind an offset, or the end of the bytes. -/
structure LineEnd (bytes : List UInt8) (offset stop : Nat) : Prop where
  le : offset ≤ stop
  le_length : stop ≤ bytes.length
  no_newline : forall i, offset ≤ i -> i < stop -> bytes[i]? ≠ some '\n'.toUInt8
  newline : stop = bytes.length ∨ bytes[stop]? = some '\n'.toUInt8

private theorem lineEnd_le {bytes : List UInt8} {offset stop stop' : Nat}
    (h : LineEnd bytes offset stop) (h' : LineEnd bytes offset stop') : stop ≤ stop' := by
  apply Nat.le_of_not_lt
  intro hlt
  rcases h'.newline with hend | hnewline
  · have hle := h.le_length
    omega
  · exact h.no_newline stop' h'.le hlt hnewline

theorem lineEnd_unique {bytes : List UInt8} {offset stop stop' : Nat}
    (h : LineEnd bytes offset stop) (h' : LineEnd bytes offset stop') : stop = stop' :=
  Nat.le_antisymm (lineEnd_le h h') (lineEnd_le h' h)

theorem boundary_of_lineEnd {offset stop : Nat} (h : LineEnd (octets text) offset stop) :
    CharBoundary text stop := by
  rcases h.newline with hend | hnewline
  · rw [hend]
    exact boundary_length text
  · exact boundary_of_ascii hnewline (by decide)

theorem newlineFrom_spec {offset : Nat} (hle : offset ≤ (octets text).length) :
    LineEnd (octets text) offset ((PaddedText.pad text).newlineFrom offset) := by
  have hlength : (PaddedText.pad text).length = (octets text).length := by
    rw [PaddedText.length_pad, length_octets]
  induction offset using PaddedText.newlineFrom.induct (PaddedText.pad text) with
  | case1 offset hlt hnewline =>
      rw [PaddedText.newlineFrom, if_pos hlt, if_pos hnewline]
      rw [hlength] at hlt
      have hoctet := List.getElem?_eq_getElem hlt
      rw [byteAt_pad hoctet] at hnewline
      refine ⟨Nat.le_refl _, hle, ?_, Or.inr ?_⟩
      · intro i hfrom hto
        exact absurd hto (Nat.not_lt_of_le hfrom)
      · rw [hoctet, hnewline]
        rfl
  | case2 offset hlt hother ih =>
      rw [PaddedText.newlineFrom, if_pos hlt, if_neg hother]
      rw [hlength] at hlt
      have hlater := ih hlt
      refine ⟨Nat.le_of_succ_le hlater.le, hlater.le_length, ?_, hlater.newline⟩
      intro i hi hbefore
      rcases Nat.eq_or_lt_of_le hi with heq | hafter
      · intro hoctet
        subst heq
        apply hother
        rw [byteAt_pad hoctet]
        rfl
      · exact hlater.no_newline i hafter hbefore
  | case3 offset hge =>
      rw [PaddedText.newlineFrom, if_neg hge]
      rw [hlength] at hge
      have heq : offset = (octets text).length := Nat.le_antisymm hle (Nat.le_of_not_lt hge)
      rw [hlength, heq]
      refine ⟨Nat.le_refl _, Nat.le_refl _, ?_, Or.inl rfl⟩
      intro i hfrom hto
      exact absurd hto (Nat.not_lt_of_le hfrom)

theorem lineEnd_toLineEnd (h : reader.Over text) :
    LineEnd (octets text) reader.pos reader.toLineEnd.pos := by
  rw [toLineEnd, h.text_eq]
  exact newlineFrom_spec h.pos_le

theorem over_toLineEnd (h : reader.Over text) : reader.toLineEnd.Over text :=
  ⟨h.text_eq, h.fits, (lineEnd_toLineEnd h).le_length⟩

/-!
## Slices
-/

/-- No padding is seen up to the length of the text. -/
theorem extract_of_over (h : reader.Over text) {first last : Nat}
    (hlast : last ≤ text.utf8ByteSize) :
    reader.text.bytes.extract first last = text.toByteArray.extract first last := by
  have hbytes : reader.text.bytes.extract 0 text.toByteArray.size = text.toByteArray := by
    rw [h.text_eq]
    exact ByteArray.extract_append_eq_left rfl
  have hmin : min last text.toByteArray.size = last := Nat.min_eq_left hlast
  rw [← hbytes, ByteArray.extract_extract, Nat.zero_add, Nat.zero_add, hmin]

theorem slice_of_over (h : reader.Over text) {front middle back : List Char}
    (htext : text.toList = front ++ middle ++ back) :
    reader.slice (encode front).length (encode (front ++ middle)).length =
      String.ofList middle := by
  have hlen : (octets text).length = (encode (front ++ middle)).length + (encode back).length := by
    rw [octets, htext, encode_append (front ++ middle), List.length_append]
  have hfront : (encode (front ++ middle)).length =
      (encode front).length + (encode middle).length := by
    rw [encode_append, List.length_append]
  have hbytes : text.toByteArray =
      front.utf8Encode ++ (middle.utf8Encode ++ back.utf8Encode) := by
    rw [← String.utf8Encode_toList, htext, List.utf8Encode_append, List.utf8Encode_append,
      ByteArray.append_assoc]
  have hsize : (encode front).length = front.utf8Encode.size := by
    rw [← List.size_toByteArray, toByteArray_encode]
  have hlast : (encode (front ++ middle)).length ≤ text.utf8ByteSize := by
    rw [← length_octets, hlen]
    exact Nat.le_add_right _ _
  have hextract : reader.text.bytes.extract (encode front).length
      (encode (front ++ middle)).length = middle.utf8Encode := by
    rw [extract_of_over h hlast, hbytes, hfront, ← Nat.add_zero (encode front).length,
      Nat.add_assoc, ByteArray.extract_append_size_add' hsize, Nat.zero_add]
    apply ByteArray.extract_append_eq_left
    rw [← List.size_toByteArray, toByteArray_encode]
  rw [slice, length_of_over h, Nat.min_eq_left (by omega), Nat.min_eq_left (by omega), hextract]
  have hdecode : String.fromUTF8? middle.utf8Encode = some (String.ofList middle) := by
    exact dif_pos (String.ofList middle).isValidUTF8
  rw [hdecode, Option.getD_some]

/-- Between two boundaries a slice has just the bytes that stand there. -/
theorem octets_slice (h : reader.Over text) {start stop : Nat}
    (hstart : CharBoundary text start) (hstop : CharBoundary text stop) (hle : start ≤ stop) :
    octets (reader.slice start stop) = ((octets text).drop start).take (stop - start) := by
  rcases exists_between_boundaries hstart hstop hle with
    ⟨front, middle, back, htext, hfront, hmiddle⟩
  have hsplit : octets text = encode front ++ (encode middle ++ encode back) := by
    rw [octets, htext]
    simp
  rw [hfront, hmiddle, slice_of_over h htext, hsplit, encode_append, List.length_append,
    Nat.add_sub_cancel_left, List.drop_left, List.take_left, octets, String.toList_ofList]

end Reader
end Text
end StatementEnd
