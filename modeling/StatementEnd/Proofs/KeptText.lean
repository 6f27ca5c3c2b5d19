import StatementEnd.Proofs.Octets

/-!
# What is kept of a text

The kept text fits, it is a front of the text, and it is the longest front that
fits. So a text that fits is kept whole, and once a text is too long nothing
written behind it changes what is kept.
-/

namespace StatementEnd
namespace Text

variable {source : String} {room : Nat} {chars front : List Char}

/-!
## Characters within a number of bytes
-/

theorem length_fitting_le (room : Nat) (chars : List Char) :
    (encode (fitting room chars)).length ≤ room := by
  induction chars generalizing room with
  | nil => exact Nat.zero_le room
  | cons c rest ih =>
      by_cases hroom : c.utf8Size ≤ room
      · have hrest := ih (room - c.utf8Size)
        rw [fitting, if_pos hroom, encode_cons, List.length_append,
          String.length_utf8EncodeChar]
        omega
      · rw [fitting, if_neg hroom]
        exact Nat.zero_le room

theorem fitting_isPrefix (room : Nat) (chars : List Char) : fitting room chars <+: chars := by
  induction chars generalizing room with
  | nil => exact List.prefix_refl []
  | cons c rest ih =>
      rw [fitting]
      split
      · exact List.cons_prefix_cons.mpr ⟨rfl, ih _⟩
      · exact List.nil_prefix

/-- No front that fits reaches behind the characters that are taken. -/
theorem isPrefix_fitting (hfront : front <+: chars) (hroom : (encode front).length ≤ room) :
    front <+: fitting room chars := by
  induction chars generalizing front room with
  | nil => exact hfront
  | cons c rest ih =>
      cases front with
      | nil => exact List.nil_prefix
      | cons d front =>
          rcases List.cons_prefix_cons.mp hfront with ⟨rfl, hrest⟩
          rw [encode_cons, List.length_append, String.length_utf8EncodeChar] at hroom
          rw [fitting, if_pos (by omega)]
          exact List.cons_prefix_cons.mpr ⟨rfl, ih hrest (by omega)⟩

/-!
## The kept text
-/

theorem fits_kept (source : String) : (kept source).utf8ByteSize < UInt32.size := by
  unfold kept
  split
  · assumption
  · have hle := length_fitting_le (UInt32.size - 1) source.toList
    rw [length_encode] at hle
    exact Nat.lt_of_le_of_lt hle (by decide)

theorem kept_isPrefix (source : String) : (kept source).toList <+: source.toList := by
  unfold kept
  split
  · exact List.prefix_refl _
  · rw [String.toList_ofList]
    exact fitting_isPrefix _ _

/-- A front that fits is kept. -/
theorem isPrefix_kept (hfront : front <+: source.toList)
    (hfits : (encode front).length < UInt32.size) : front <+: (kept source).toList := by
  unfold kept
  split
  · exact hfront
  · rw [String.toList_ofList]
    exact isPrefix_fitting hfront (Nat.le_sub_one_of_lt hfits)

/-- The kept text is the longest front of the text that fits. -/
theorem kept_eq_iff {text : String} :
    kept source = text <->
      text.utf8ByteSize < UInt32.size ∧ text.toList <+: source.toList ∧
        forall front, front <+: source.toList -> (encode front).length < UInt32.size ->
          front <+: text.toList := by
  constructor
  · rintro rfl
    exact ⟨fits_kept source, kept_isPrefix source, fun _ => isPrefix_kept⟩
  · rintro ⟨hfits, hprefix, hlongest⟩
    have hfits' := fits_kept source
    rw [← length_octets] at hfits hfits'
    have hle := isPrefix_kept hprefix hfits
    have hge := hlongest _ (kept_isPrefix source) hfits'
    exact String.toList_inj.mp (hge.eq_of_length_le hle.length_le)

/-- Behind a text that is too long nothing is kept. -/
theorem kept_append_of_long {text : String} (hlong : UInt32.size ≤ text.utf8ByteSize)
    (more : String) : kept (text ++ more) = kept text := by
  apply kept_eq_iff.mpr
  have happend : text.toList <+: (text ++ more).toList := by
    rw [String.toList_append]
    exact List.prefix_append _ _
  refine ⟨fits_kept text, (kept_isPrefix text).trans happend, ?_⟩
  intro front hfront hfits
  rcases List.prefix_or_prefix_of_prefix hfront happend with hshort | ⟨rest, hrest⟩
  · exact isPrefix_kept hshort hfits
  · rw [← hrest, encode_append, List.length_append, ← octets, length_octets] at hfits
    omega

end Text
end StatementEnd
