import StatementEnd.Proofs.Reading

/-!
# Slices of a text

A slice is the text between two offsets when neither of them splits a character, and
nothing otherwise: bytes that were cut inside a character are no UTF-8. Slices that follow
each other make up the slice over both.
-/

namespace StatementEnd
namespace Text

variable {text : String}

/-!
## Boundaries as valid positions
-/

theorem boundary_iff_isValid {offset : Nat} :
    CharBoundary text offset <-> String.Pos.Raw.IsValid text ⟨offset⟩ := by
  rw [String.Pos.Raw.isValid_iff_exists_take_toList]
  constructor
  · intro hboundary
    rcases hboundary with ⟨front, back, htext, hoffset⟩
    refine ⟨front.length, ?_⟩
    rw [htext, List.take_left, hoffset, length_encode]
  · intro hvalid
    rcases hvalid with ⟨count, hoffset⟩
    refine ⟨text.toList.take count, text.toList.drop count, ?_, ?_⟩
    · exact (List.take_append_drop count _).symm
    · rw [length_encode]
      exact hoffset

theorem boundary_zero (text : String) : CharBoundary text 0 :=
  ⟨[], text.toList, rfl, rfl⟩

theorem octets_inj {first second : String} (h : octets first = octets second) :
    first = second :=
  String.toList_inj.mp (encode_inj h)

/-!
## Cut offsets
-/

/-- Where a slice up to an offset really ends. -/
def cutStop (text : String) (stop : Nat) : Nat :=
  min stop (octets text).length

/-- Where a slice between two offsets really starts. -/
def cutStart (text : String) (start stop : Nat) : Nat :=
  min start (cutStop text stop)

theorem cutStart_le_cutStop (text : String) (start stop : Nat) :
    cutStart text start stop ≤ cutStop text stop :=
  Nat.min_le_right _ _

namespace Reader

variable {reader : Reader} {start middle stop : Nat}

theorem slice_eq_decoded (h : reader.Over text) (start stop : Nat) :
    reader.slice start stop =
      (String.fromUTF8? (text.toByteArray.extract (cutStart text start stop)
        (cutStop text stop))).getD "" := by
  have hlast : cutStop text stop ≤ text.utf8ByteSize := by
    rw [← length_octets]
    exact Nat.min_le_right _ _
  rw [slice, length_of_over h]
  exact congrArg (fun bytes => (String.fromUTF8? bytes).getD "") (extract_of_over h hlast)

theorem slice_cut (h : reader.Over text) (start stop : Nat) :
    reader.slice (cutStart text start stop) (cutStop text stop) = reader.slice start stop := by
  have hlast : cutStop text (cutStop text stop) = cutStop text stop :=
    Nat.min_eq_left (Nat.min_le_right _ _)
  have hfirst : cutStart text (cutStart text start stop) (cutStop text stop) =
      cutStart text start stop := by
    rw [cutStart, hlast]
    exact Nat.min_eq_left (cutStart_le_cutStop text start stop)
  rw [slice_eq_decoded h, slice_eq_decoded h, hfirst, hlast]

/-!
## Slices that split a character
-/

theorem slice_of_split (h : reader.Over text)
    (hsplit : ¬ (CharBoundary text (cutStart text start stop) ∧
      CharBoundary text (cutStop text stop))) : reader.slice start stop = "" := by
  rw [slice_eq_decoded h]
  by_cases hempty : cutStart text start stop = cutStop text stop
  · rw [hempty, ByteArray.extract_same]
    rfl
  · have hlast : cutStop text stop ≤ text.utf8ByteSize := by
      rw [← length_octets]
      exact Nat.min_le_right _ _
    have hbytes : ¬ (text.toByteArray.extract (cutStart text start stop)
        (cutStop text stop)).IsValidUTF8 := by
      intro hvalid
      rcases (String.Pos.Raw.isValidUTF8_extract_iff ⟨cutStart text start stop⟩
          ⟨cutStop text stop⟩ (cutStart_le_cutStop text start stop) hlast).mp hvalid with
        heq | hboth
      · exact hempty (congrArg String.Pos.Raw.byteIdx heq)
      · exact hsplit ⟨boundary_iff_isValid.mpr hboth.1, boundary_iff_isValid.mpr hboth.2⟩
    rw [String.fromUTF8?, dif_neg hbytes]
    rfl

/-!
## Slices between characters
-/

theorem octets_slice_cut (h : reader.Over text)
    (hstart : CharBoundary text (cutStart text start stop))
    (hstop : CharBoundary text (cutStop text stop)) :
    octets (reader.slice start stop) =
      ((octets text).drop (cutStart text start stop)).take
        (cutStop text stop - cutStart text start stop) := by
  rw [← slice_cut h]
  exact octets_slice h hstart hstop (cutStart_le_cutStop text start stop)

theorem slice_append_slice (h : reader.Over text) (hstart : CharBoundary text start)
    (hmiddle : CharBoundary text middle) (hstop : CharBoundary text stop)
    (hle : start ≤ middle) (hle' : middle ≤ stop) :
    reader.slice start middle ++ reader.slice middle stop = reader.slice start stop := by
  have hlength : stop - start = (middle - start) + (stop - middle) := by omega
  apply octets_inj
  rw [octets_append, octets_slice h hstart hmiddle hle, octets_slice h hmiddle hstop hle',
    octets_slice h hstart hstop (Nat.le_trans hle hle'), hlength, List.take_add,
    List.drop_drop, Nat.add_sub_cancel' hle]

theorem slice_all (h : reader.Over text) : reader.slice 0 (octets text).length = text := by
  apply octets_inj
  rw [octets_slice h (boundary_zero text) (boundary_length text) (Nat.zero_le _)]
  exact List.take_length

/-- The slices that a reader takes of the text that it keeps. -/
structure SlicesText (text : String) (reader : Reader) : Prop where
  /-- Between two boundaries a slice is what stands there. -/
  between : forall start stop, CharBoundary text (cutStart text start stop) ->
    CharBoundary text (cutStop text stop) ->
    octets (reader.slice start stop) =
      ((octets text).drop (cutStart text start stop)).take
        (cutStop text stop - cutStart text start stop)
  /-- A slice that would split a character is empty. -/
  split : forall start stop, ¬ (CharBoundary text (cutStart text start stop) ∧
    CharBoundary text (cutStop text stop)) -> reader.slice start stop = ""
  join : forall start middle stop, CharBoundary text start -> CharBoundary text middle ->
    CharBoundary text stop -> start ≤ middle -> middle ≤ stop ->
    reader.slice start middle ++ reader.slice middle stop = reader.slice start stop
  all : reader.slice 0 reader.text.length = text

theorem slicesText_of_over (h : reader.Over text) : SlicesText text reader := by
  constructor
  · intro start stop hstart hstop
    exact octets_slice_cut h hstart hstop
  · intro start stop hsplit
    exact slice_of_split h hsplit
  · intro start middle stop hstart hmiddle hstop hle hle'
    exact slice_append_slice h hstart hmiddle hstop hle hle'
  · rw [length_of_over h]
    exact slice_all h

/-- Wherever a reader stands in what is kept of a source, its slices are what stands there
between two characters, or nothing. A source that fits is the slice from end to end. -/
theorem slices_give_text_or_nothing (source : String) (offset : Nat) :
    SlicesText (kept source) ((ofString source).seek offset) ∧
      (source.utf8ByteSize < UInt32.size ->
        ((ofString source).seek offset).slice 0 source.utf8ByteSize = source) := by
  refine ⟨slicesText_of_over (over_seek (over_ofString source) offset), ?_⟩
  intro hfits
  have hall := slice_all (over_seek (over_of_fits hfits) offset)
  rw [length_octets] at hall
  exact hall

/-- A slice that ends inside the accent is empty, one that holds it is cut at the end. -/
example : (ofString "a\u00e9").slice 0 2 = "" ∧ (ofString "a\u00e9").slice 1 9 = "\u00e9" := by
  decide +kernel

end Reader
end Text
end StatementEnd
