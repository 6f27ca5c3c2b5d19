/-!
# UTF-8 sequences

How far one sequence reaches and which character it holds. The reach is read
off the lead byte alone, so that a reader can step over a sequence before, or
without, decoding it; a byte that leads no sequence counts as a step of its own.
-/

namespace StatementEnd
namespace Text
namespace Utf8

/-- The number of bytes in the sequence that a byte leads. -/
def width (lead : UInt8) : Nat :=
  if 0xC0 ≤ lead ∧ lead ≤ 0xDF then 2
  else if 0xE0 ≤ lead ∧ lead ≤ 0xEF then 3
  else if 0xF0 ≤ lead ∧ lead ≤ 0xF7 then 4
  else 1

/-- The character that stands for bytes that are no sequence. -/
def replacement : Char := '\uFFFD'

/-- The character that starts a window of bytes. -/
def decode (window : ByteArray) : Char :=
  (window.utf8DecodeChar? 0).getD replacement

/-!
## Reach of a sequence
-/

theorem width_pos (lead : UInt8) : 0 < width lead := by
  unfold width
  repeat' split
  all_goals omega

theorem width_of_ascii {lead : UInt8} (h : lead < 0x80) : width lead = 1 := by
  have hlead : lead.toNat < 128 := UInt8.lt_iff_toNat_lt.mp h
  have htwo : (0xC0 : UInt8).toNat = 192 := rfl
  have hthree : (0xE0 : UInt8).toNat = 224 := rfl
  have hfour : (0xF0 : UInt8).toNat = 240 := rfl
  unfold width
  simp only [UInt8.le_iff_toNat_le, htwo, hthree, hfour]
  rw [if_neg (by omega), if_neg (by omega), if_neg (by omega)]

/-!
## Encoded characters

The encoding of a character starts with a byte that announces its whole length, and
it decodes to the character again.
-/

theorem width_lead_two (b : UInt8) : width (b &&& 0x1F ||| 0xC0) = 2 := by
  rcases b with ⟨⟨b⟩⟩
  revert b
  decide +kernel

theorem width_lead_three (b : UInt8) : width (b &&& 0x0F ||| 0xE0) = 3 := by
  rcases b with ⟨⟨b⟩⟩
  revert b
  decide +kernel

theorem width_lead_four (b : UInt8) : width (b &&& 0x07 ||| 0xF0) = 4 := by
  rcases b with ⟨⟨b⟩⟩
  revert b
  decide +kernel

theorem exists_head (c : Char) :
    exists (lead : UInt8) (rest : List UInt8), String.utf8EncodeChar c = lead :: rest := by
  apply List.exists_cons_of_length_pos
  rw [String.length_utf8EncodeChar]
  exact c.utf8Size_pos

/-- The lead byte of a character tells how far its sequence reaches. -/
theorem width_head (c : Char) {lead : UInt8} {rest : List UInt8}
    (h : String.utf8EncodeChar c = lead :: rest) : width lead = c.utf8Size := by
  rcases Char.utf8Size_eq c with hsize | hsize | hsize | hsize
  · rw [String.utf8EncodeChar_eq_singleton hsize] at h
    cases h
    rw [hsize]
    apply width_of_ascii
    have hsmall := UInt32.le_iff_toNat_le.mp (Char.utf8Size_eq_one_iff.mp hsize)
    rw [UInt8.lt_iff_toNat_lt, UInt32.toNat_toUInt8]
    change c.val.toNat ≤ 127 at hsmall
    change c.val.toNat % 256 < 128
    omega
  · rw [String.utf8EncodeChar_eq_cons_cons hsize] at h
    cases h
    rw [hsize, width_lead_two]
  · rw [String.utf8EncodeChar_eq_cons_cons_cons hsize] at h
    cases h
    rw [hsize, width_lead_three]
  · rw [String.utf8EncodeChar_eq_cons_cons_cons_cons hsize] at h
    cases h
    rw [hsize, width_lead_four]

theorem ofUInt8_head (c : Char) {lead : UInt8} {rest : List UInt8}
    (h : String.utf8EncodeChar c = lead :: rest) (hascii : lead < 0x80) :
    Char.ofUInt8 lead = c := by
  have hsize : c.utf8Size = 1 := by
    rw [← width_head c h, width_of_ascii hascii]
  rw [String.utf8EncodeChar_eq_singleton hsize] at h
  cases h
  have hsmall := UInt32.le_iff_toNat_le.mp (Char.utf8Size_eq_one_iff.mp hsize)
  change c.val.toNat ≤ 127 at hsmall
  apply Char.ext
  apply UInt32.toNat_inj.mp
  change (c.val.toUInt8.toUInt32).toNat = c.val.toNat
  rw [UInt8.toNat_toUInt32, UInt32.toNat_toUInt8]
  omega

theorem decode_encode (c : Char) : decode (String.utf8EncodeChar c).toByteArray = c := by
  have h := ByteArray.utf8DecodeChar?_utf8EncodeChar_append (b := ByteArray.empty) (c := c)
  rw [ByteArray.append_empty] at h
  rw [decode, h]
  rfl

end Utf8
end Text
end StatementEnd
