import StatementEnd.Text.Boundary

/-!
# The bytes of a text

A text as the list of its UTF-8 bytes, and what stands at any offset of it. An
offset lies either before the first byte of a character or inside its sequence,
and the byte there tells which: a byte that leads no sequence only stands inside.
-/

namespace StatementEnd
namespace Text

/-- The bytes of a list of characters. -/
def encode (chars : List Char) : List UInt8 :=
  chars.flatMap String.utf8EncodeChar

/-- The bytes of a text. -/
def octets (text : String) : List UInt8 :=
  encode text.toList

/-- An offset between two characters of a text, or at either end. -/
def CharBoundary (text : String) (offset : Nat) : Prop :=
  exists front back : List Char,
    text.toList = front ++ back ∧ offset = (encode front).length

/-!
## Encoding
-/

@[simp] theorem encode_nil : encode [] = [] := rfl

@[simp] theorem encode_cons (c : Char) (chars : List Char) :
    encode (c :: chars) = String.utf8EncodeChar c ++ encode chars := rfl

@[simp] theorem encode_append (front back : List Char) :
    encode (front ++ back) = encode front ++ encode back := by
  simp [encode]

theorem toByteArray_encode (chars : List Char) :
    (encode chars).toByteArray = chars.utf8Encode := rfl

theorem toByteArray_octets (text : String) :
    (octets text).toByteArray = text.toUTF8 := by
  rw [octets, toByteArray_encode, String.utf8Encode_toList]
  rfl

theorem length_encode (chars : List Char) :
    (encode chars).length = (String.ofList chars).utf8ByteSize := by
  rw [← List.size_toByteArray, toByteArray_encode]
  rfl

theorem length_octets (text : String) :
    (octets text).length = text.utf8ByteSize := by
  rw [octets, length_encode, String.ofList_toList]

theorem octets_append (first second : String) :
    octets (first ++ second) = octets first ++ octets second := by
  rw [octets, String.toList_append, encode_append]
  rfl

theorem encode_inj {xs ys : List Char} (h : encode xs = encode ys) : xs = ys := by
  have hbytes : xs.utf8Encode = ys.utf8Encode := by
    rw [← toByteArray_encode, ← toByteArray_encode, h]
  have htexts : String.ofList xs = String.ofList ys := by
    apply String.toByteArray_inj.mp
    simpa using hbytes
  simpa using congrArg String.toList htexts

/-!
## Offsets

Every offset before the end lies in the sequence of exactly one character.
-/

theorem exists_char_at {text : String} {offset : Nat}
    (h : offset < (octets text).length) :
    exists (front back : List Char) (c : Char) (inner : Nat),
      text.toList = front ++ c :: back ∧ inner < c.utf8Size ∧
        offset = (encode front).length + inner := by
  unfold octets at h
  generalize text.toList = chars at h
  induction chars generalizing offset with
  | nil => simp at h
  | cons c rest ih =>
      by_cases hin : offset < c.utf8Size
      · exact ⟨[], rest, c, offset, rfl, hin, by simp⟩
      · have hrest : offset - c.utf8Size < (encode rest).length := by
          simp at h
          omega
        rcases ih hrest with ⟨front, back, d, inner, hchars, hinner, hoffset⟩
        refine ⟨c :: front, back, d, inner, by rw [hchars]; rfl, hinner, ?_⟩
        simp
        omega

theorem getElem?_encode_middle {front back : List Char} {c : Char} {inner : Nat}
    (hinner : inner < c.utf8Size) :
    (encode (front ++ c :: back))[(encode front).length + inner]? =
      (String.utf8EncodeChar c)[inner]? := by
  have hlen : inner < (String.utf8EncodeChar c).length := by simpa using hinner
  rw [encode_append, encode_cons, List.getElem?_append_right (by omega)]
  rw [Nat.add_sub_cancel_left, List.getElem?_append_left hlen]

theorem isUTF8FirstByte_iff_inner {text : String} {front back : List Char} {c : Char}
    {inner : Nat} {octet : UInt8}
    (htext : text.toList = front ++ c :: back) (hinner : inner < c.utf8Size)
    (hoctet : (octets text)[(encode front).length + inner]? = some octet) :
    octet.IsUTF8FirstByte <-> inner = 0 := by
  rw [octets, htext, getElem?_encode_middle hinner] at hoctet
  rcases List.getElem?_eq_some_iff.mp hoctet with ⟨hlt, rfl⟩
  exact UInt8.isUTF8FirstByte_getElem_utf8EncodeChar

theorem boundary_length (text : String) : CharBoundary text (octets text).length :=
  ⟨text.toList, [], by simp, rfl⟩

theorem boundary_of_isUTF8FirstByte {text : String} {offset : Nat} {octet : UInt8}
    (hoctet : (octets text)[offset]? = some octet) (hfirst : octet.IsUTF8FirstByte) :
    CharBoundary text offset := by
  have hlt : offset < (octets text).length := (List.getElem?_eq_some_iff.mp hoctet).1
  rcases exists_char_at hlt with ⟨front, back, c, inner, htext, hinner, hoffset⟩
  subst hoffset
  have hzero := (isUTF8FirstByte_iff_inner htext hinner hoctet).mp hfirst
  exact ⟨front, c :: back, htext, by simp [hzero]⟩

theorem isUTF8FirstByte_of_boundary {text : String} {offset : Nat} {octet : UInt8}
    (h : CharBoundary text offset) (hoctet : (octets text)[offset]? = some octet) :
    octet.IsUTF8FirstByte := by
  rcases h with ⟨front, back, htext, hoffset⟩
  subst hoffset
  cases back with
  | nil =>
      rw [octets, htext, List.append_nil] at hoctet
      simp at hoctet
  | cons c back =>
      have hzero : (octets text)[(encode front).length + 0]? = some octet := hoctet
      exact (isUTF8FirstByte_iff_inner htext c.utf8Size_pos hzero).mpr rfl

/-- The characters between two boundaries. -/
theorem exists_between_boundaries {text : String} {start stop : Nat}
    (hstart : CharBoundary text start) (hstop : CharBoundary text stop) (hle : start ≤ stop) :
    exists front middle back : List Char,
      text.toList = front ++ middle ++ back ∧ start = (encode front).length ∧
        stop = (encode (front ++ middle)).length := by
  rcases hstart with ⟨front, tail, htail, hfront⟩
  rcases hstop with ⟨front', back, hback, hfront'⟩
  have hprefix : front <+: text.toList := ⟨tail, htail.symm⟩
  have hprefix' : front' <+: text.toList := ⟨back, hback.symm⟩
  rcases List.prefix_or_prefix_of_prefix hprefix hprefix' with ⟨middle, hmiddle⟩ | ⟨more, hmore⟩
  · exact ⟨front, middle, back, by rw [hmiddle, hback], hfront, by rw [hmiddle, hfront']⟩
  · have hlen : (encode front).length = (encode front').length + (encode more).length := by
      rw [← hmore, encode_append, List.length_append]
    refine ⟨front, [], tail, by rw [htail, List.append_nil], hfront, ?_⟩
    rw [List.append_nil]
    omega

/-!
## ASCII

An ASCII byte is a whole character, so both its ends are boundaries.
-/

/-- An ASCII character other than U+0000. -/
def IsPlain (c : Char) : Prop :=
  c.val < 0x80 ∧ c ≠ '\x00'

instance : DecidablePred IsPlain :=
  fun _ => inferInstanceAs (Decidable (_ ∧ _))

/-- What holds of each character of a written list. -/
theorem forall_mem_of_all {chars : List Char} {p : Char -> Prop} [DecidablePred p]
    (h : chars.all (fun c => decide (p c)) = true) : forall c, c ∈ chars -> p c := by
  intro c hmem
  exact of_decide_eq_true (List.all_eq_true.mp h c hmem)

theorem isUTF8FirstByte_of_ascii {octet : UInt8} (h : octet < 0x80) :
    octet.IsUTF8FirstByte := by
  rcases octet with ⟨⟨value⟩⟩
  revert value
  decide +kernel

theorem width_of_not_isUTF8FirstByte {octet : UInt8} (h : ¬ octet.IsUTF8FirstByte) :
    Utf8.width octet = 1 := by
  rcases octet with ⟨⟨value⟩⟩
  revert value
  decide +kernel

theorem boundary_of_ascii {text : String} {offset : Nat} {octet : UInt8}
    (hoctet : (octets text)[offset]? = some octet) (hascii : octet < 0x80) :
    CharBoundary text offset :=
  boundary_of_isUTF8FirstByte hoctet (isUTF8FirstByte_of_ascii hascii)

theorem boundary_succ_of_ascii {text : String} {offset : Nat} {octet : UInt8}
    (hoctet : (octets text)[offset]? = some octet) (hascii : octet < 0x80) :
    CharBoundary text (offset + 1) := by
  have hlt : offset < (octets text).length := (List.getElem?_eq_some_iff.mp hoctet).1
  rcases exists_char_at hlt with ⟨front, back, c, inner, htext, hinner, hoffset⟩
  subst hoffset
  have hzero : inner = 0 :=
    (isUTF8FirstByte_iff_inner htext hinner hoctet).mp (isUTF8FirstByte_of_ascii hascii)
  subst hzero
  rw [octets, htext, getElem?_encode_middle hinner] at hoctet
  cases hencoded : String.utf8EncodeChar c with
  | nil =>
      rw [hencoded] at hoctet
      cases hoctet
  | cons lead rest =>
      rw [hencoded] at hoctet
      cases hoctet
      have hsize : c.utf8Size = 1 := by
        rw [← Utf8.width_head c hencoded, Utf8.width_of_ascii hascii]
      exact ⟨front ++ [c], back, by simp [htext], by simp [hsize]⟩

theorem boundary_of_ascii_before {text : String} {offset : Nat} {octet : UInt8}
    (hpos : 0 < offset) (hoctet : (octets text)[offset - 1]? = some octet)
    (hascii : octet < 0x80) : CharBoundary text offset := by
  have hboundary := boundary_succ_of_ascii hoctet hascii
  rw [Nat.sub_add_cancel hpos] at hboundary
  exact hboundary

end Text
end StatementEnd
