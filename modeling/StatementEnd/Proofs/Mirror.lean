import StatementEnd.Proofs.Lockstep
import StatementEnd.Proofs.RegionLookup
import StatementEnd.Proofs.UnitProgress
import StatementEnd.Proofs.Walk

/-!
# A text and its characters

A host over a text and a host over the characters of the same text mirror each other
when every position of the one is the byte offset of the same position of the other.
Hosts that mirror each other run in lockstep.
-/

namespace StatementEnd

open Text

/-!
## Byte offsets of characters
-/

namespace Text

variable {text : String} {i j : Nat}

/-- The byte offset behind the first characters of a text. -/
def offsetOf (text : String) (count : Nat) : Nat :=
  (encode (text.toList.take count)).length

theorem offsetOf_of_le (h : text.toList.length ≤ i) :
    offsetOf text i = (octets text).length := by
  rw [offsetOf, List.take_of_length_le h, octets]

theorem offsetOf_succ {c : Char} (h : text.toList[i]? = some c) :
    offsetOf text (i + 1) = offsetOf text i + c.utf8Size := by
  rw [offsetOf, List.take_add_one, h, encode_append, List.length_append]
  simp [offsetOf]

theorem offsetOf_lt_succ (h : i < text.toList.length) :
    offsetOf text i < offsetOf text (i + 1) := by
  have hsize := (text.toList[i]).utf8Size_pos
  rw [offsetOf_succ (List.getElem?_eq_getElem h)]
  omega

theorem offsetOf_mono (h : i ≤ j) : offsetOf text i ≤ offsetOf text j := by
  induction h with
  | refl => exact Nat.le_refl _
  | @step j _ ih =>
      apply Nat.le_trans ih
      by_cases hlt : j < text.toList.length
      · exact Nat.le_of_lt (offsetOf_lt_succ hlt)
      · have hge := Nat.le_of_not_lt hlt
        apply Nat.le_of_eq
        rw [offsetOf_of_le hge, offsetOf_of_le (Nat.le_succ_of_le hge)]

theorem offsetOf_lt (h : i < j) (hj : j ≤ text.toList.length) :
    offsetOf text i < offsetOf text j :=
  Nat.lt_of_lt_of_le (offsetOf_lt_succ (Nat.lt_of_lt_of_le h hj)) (offsetOf_mono h)

theorem offsetOf_inj (hi : i ≤ text.toList.length) (hj : j ≤ text.toList.length)
    (h : offsetOf text i = offsetOf text j) : i = j := by
  rcases Nat.lt_trichotomy i j with hlt | heq | hlt
  · exact absurd h (Nat.ne_of_lt (offsetOf_lt hlt hj))
  · exact heq
  · exact absurd h (Nat.ne_of_gt (offsetOf_lt hlt hi))

theorem offsetOf_le_length (text : String) (i : Nat) :
    offsetOf text i ≤ (octets text).length := by
  rw [← offsetOf_of_le (Nat.le_max_right i text.toList.length)]
  exact offsetOf_mono (Nat.le_max_left i _)

theorem offsetOf_min (text : String) (i j : Nat) :
    offsetOf text (min i j) = min (offsetOf text i) (offsetOf text j) := by
  rcases Nat.le_total i j with hle | hle
  · rw [Nat.min_eq_left hle, Nat.min_eq_left (offsetOf_mono hle)]
  · rw [Nat.min_eq_right hle, Nat.min_eq_right (offsetOf_mono hle)]

end Text

/-!
## Units of a text
-/

namespace UnitHost

theorem charOf_toNat (c : Char) : charOf (c.toNat : Int) = c := by
  have hvalid : (0 : Int) ≤ (c.toNat : Int) ∧ (c.toNat : Int).toNat.isValidChar :=
    ⟨Int.natCast_nonneg _, c.valid⟩
  rw [charOf, dif_pos hvalid]
  rfl

theorem unitAt_ofString {text : String} {i : Nat} {c : Char} (h : text.toList[i]? = some c) :
    unitAt (ofString text).units i = (c.toNat : Int) := by
  simp [unitAt, ofString, ofUnits, h]

theorem size_ofString (text : String) :
    (ofString text).units.size = text.toList.length := by
  simp [ofString, ofUnits]

end UnitHost

/-!
## The mirror
-/

/-- A host over a text that it keeps whole and a host over its characters at the same
place, with the same token and the same range starts. -/
structure Mirrors (text : String) (regions : List Nat) (a : TextHost) (b : UnitHost) :
    Prop where
  text_eq : a.reader.text = .pad text
  fits : text.utf8ByteSize < UInt32.size
  units_eq : b.units = (UnitHost.ofString text).units
  index_le : b.pos ≤ text.toList.length
  pos_eq : a.reader.pos = offsetOf text b.pos
  raw_eq : b.raw = UnitHost.unitAt b.units b.pos
  start_eq : a.bounds.start = offsetOf text b.bounds.start
  stop_eq : a.bounds.stop? = b.bounds.stop?.map (offsetOf text)
  byte_regions : a.regions = .ofList (regions.map (offsetOf text))
  unit_regions : b.regions = regions
  abilities_eq : b.abilities = {}

namespace Mirrors

variable {text : String} {regions : List Nat} {a : TextHost} {b : UnitHost}

theorem over_text (h : Mirrors text regions a b) : a.Over text := by
  refine ⟨h.text_eq, h.fits, ?_⟩
  rw [h.pos_eq]
  exact offsetOf_le_length text b.pos

theorem canAdvance (h : Mirrors text regions a b) : b.CanAdvance := by
  rw [UnitHost.CanAdvance, h.abilities_eq]

theorem size_eq (h : Mirrors text regions a b) : b.units.size = text.toList.length := by
  rw [h.units_eq, UnitHost.size_ofString]

theorem between (h : Mirrors text regions a b) :
    a.reader.Between (text.toList.take b.pos) (text.toList.drop b.pos) := by
  constructor
  · rw [List.take_append_drop, String.ofList_toList, h.text_eq]
  · rw [h.pos_eq, offsetOf, length_encode]

/-!
Either both hosts are at the end, or both show the same character of the text.
-/

theorem between_end (h : Mirrors text regions a b) (hend : b.pos = text.toList.length) :
    a.reader.Between text.toList [] := by
  have hbetween := h.between
  rw [hend, List.take_length, List.drop_length] at hbetween
  exact hbetween

theorem between_char (h : Mirrors text regions a b) {c : Char}
    (hchar : text.toList[b.pos]? = some c) :
    a.reader.Between (text.toList.take b.pos) (c :: text.toList.drop (b.pos + 1)) := by
  have hbetween := h.between
  rcases List.getElem?_eq_some_iff.mp hchar with ⟨hlt, hget⟩
  rw [List.drop_eq_getElem_cons hlt, hget] at hbetween
  exact hbetween

theorem end_or_char (h : Mirrors text regions a b) :
    b.pos = text.toList.length ∨ exists c, text.toList[b.pos]? = some c := by
  rcases Nat.eq_or_lt_of_le h.index_le with hend | hlt
  · exact Or.inl hend
  · exact Or.inr ⟨_, List.getElem?_eq_getElem hlt⟩

theorem lookahead (h : Mirrors text regions a b) : Host.lookahead a = Host.lookahead b := by
  show a.reader.char = UnitHost.charOf b.raw
  rw [h.raw_eq]
  rcases h.end_or_char with hend | ⟨c, hchar⟩
  · have hsize : b.units.size = b.pos := by rw [h.size_eq, hend]
    rw [Reader.char_of_between_nil (h.between_end hend),
      UnitHost.unitAt_of_le (Nat.le_of_eq hsize), UnitHost.charOf_zero]
  · rw [Reader.char_of_between_cons (h.between_char hchar), h.units_eq,
      UnitHost.unitAt_ofString hchar, UnitHost.charOf_toNat]

theorem atEnd (h : Mirrors text regions a b) : Host.atEnd a = Host.atEnd b := by
  have hsize := h.size_eq
  show a.reader.atEnd = b.atEnd
  rw [UnitHost.atEnd, h.abilities_eq, hsize]
  rcases h.end_or_char with hend | ⟨c, hchar⟩
  · rw [Reader.atEnd_of_between_nil (h.between_end hend), hend]
    simp
  · have hlt := (List.getElem?_eq_some_iff.mp hchar).1
    rw [Reader.atEnd_of_between_cons (h.between_char hchar)]
    simp [Nat.not_le_of_lt hlt]

theorem atRegionStart (h : Mirrors text regions a b)
    (hregions : forall region, region ∈ regions -> region ≤ text.toList.length) :
    Host.atRegionStart a = Host.atRegionStart b := by
  show a.regions.contains a.reader.pos = b.atRegionStart
  rw [UnitHost.atRegionStart, h.abilities_eq, h.unit_regions, h.byte_regions, h.pos_eq,
    Bool.true_and, Bool.eq_iff_iff, RegionStarts.contains_ofList_iff, List.mem_map,
    List.contains_iff_mem]
  constructor
  · intro hfound
    rcases hfound with ⟨region, hmem, heq⟩
    rw [← offsetOf_inj (hregions region hmem) h.index_le heq]
    exact hmem
  · intro hmem
    exact ⟨b.pos, hmem, rfl⟩

/-!
## Steps of the mirror
-/

theorem pos_advance (h : Mirrors text regions a b) :
    a.reader.advance.pos = offsetOf text b.nextPos := by
  rw [UnitHost.nextPos, h.size_eq]
  rcases h.end_or_char with hend | ⟨c, hchar⟩
  · rw [if_neg (by rw [hend]; exact Nat.lt_irrefl _),
      Reader.advance_of_atEnd (Reader.atEnd_of_between_nil (h.between_end hend)), h.pos_eq]
  · rw [if_pos (List.getElem?_eq_some_iff.mp hchar).1,
      (Reader.advance_of_between_cons (h.between_char hchar)).pos, ← length_encode, offsetOf,
      List.take_add_one, hchar]
    rfl

theorem nextPos_le (h : Mirrors text regions a b) : b.nextPos ≤ text.toList.length := by
  rw [UnitHost.nextPos, h.size_eq]
  split
  · next hlt => exact hlt
  · exact h.index_le

theorem advance (h : Mirrors text regions a b) :
    Mirrors text regions (Host.advance a) (Host.advance b) := by
  show Mirrors text regions (Host.advance a) b.advance
  rw [UnitHost.advance_of_canAdvance h.canAdvance]
  exact { h with
    text_eq := (Reader.text_advance a.reader).trans h.text_eq
    index_le := h.nextPos_le
    pos_eq := h.pos_advance
    raw_eq := rfl }

theorem skip (h : Mirrors text regions a b) :
    Mirrors text regions (Host.skip a) (Host.skip b) := by
  show Mirrors text regions (Host.skip a) b.skip
  rw [UnitHost.skip_of_canAdvance h.canAdvance]
  exact { h with
    text_eq := (Reader.text_advance a.reader).trans h.text_eq
    index_le := h.nextPos_le
    pos_eq := h.pos_advance
    raw_eq := rfl
    start_eq := h.pos_advance }

theorem markEnd (h : Mirrors text regions a b) :
    Mirrors text regions (Host.markEnd a) (Host.markEnd b) := by
  have hmark : Host.markEnd b =
      { b with bounds := b.bounds.stopAt b.pos }.log .markEnd := by
    show b.markEnd = _
    rw [UnitHost.markEnd, h.abilities_eq]
    rfl
  rw [hmark]
  exact { h with stop_eq := congrArg some h.pos_eq }

theorem seek (h : Mirrors text regions a b) (index : Nat) :
    Mirrors text regions (a.seek (offsetOf text index)) (b.seek index) := by
  have hpos : min (offsetOf text index) a.reader.text.length =
      offsetOf text (min index b.units.size) := by
    rw [Reader.length_of_over h.over_text, h.size_eq, offsetOf_min,
      offsetOf_of_le (Nat.le_refl _)]
  exact { h with
    index_le := by
      show min index b.units.size ≤ text.toList.length
      rw [h.size_eq]
      exact Nat.min_le_right _ _
    pos_eq := hpos
    raw_eq := rfl
    start_eq := hpos
    stop_eq := rfl }

theorem clearCalls (h : Mirrors text regions a b) : Mirrors text regions a b.clearCalls :=
  { h with }

theorem setSymbol (h : Mirrors text regions a b) (kind : TokenKind) :
    Mirrors text regions a (b.setSymbol kind) :=
  { h with }

theorem start (source : String) (regions : List Nat) :
    Mirrors (kept source) regions
      ((TextHost.ofString source).withRegions (regions.map (offsetOf (kept source))))
      { UnitHost.ofString (kept source) with regions := regions } where
  text_eq := rfl
  fits := fits_kept source
  units_eq := rfl
  index_le := Nat.zero_le _
  pos_eq := rfl
  raw_eq := rfl
  start_eq := rfl
  stop_eq := rfl
  byte_regions := rfl
  unit_regions := rfl
  abilities_eq := rfl

theorem skipLine (h : Mirrors text regions a b) :
    Outcome.Agrees (Mirrors text regions) (LineHost.skipLine (Host.skip a))
      (LineHost.skipLine (Host.skip b)) := by
  rw [TextHost.skipLine_eq_stepToLineEnd h.skip.over_text rfl]
  exact Host.stepToLineEnd_agrees (TextHost.lively text) UnitHost.lively (fun h => h.over_text)
    (fun h => h.canAdvance) (fun h => h.lookahead) (fun h => h.atEnd) (fun h _ => h.skip) h.skip

/-- Hosts that mirror each other run in lockstep. -/
theorem lockstep (text : String) {regions : List Nat}
    (hregions : forall region, region ∈ regions -> region ≤ text.toList.length) :
    Lockstep (fun host : TextHost => host.Over text) UnitHost.CanAdvance
      (Mirrors text regions) where
  left := TextHost.lively text
  right := UnitHost.lively
  on_left h := h.over_text
  on_right h := h.canAdvance
  lookahead h := h.lookahead
  atEnd h := h.atEnd
  atRegionStart h := h.atRegionStart hregions
  advance h := h.advance
  skip h := h.skip
  markEnd h := h.markEnd
  skipLine h := h.skipLine

/-!
## Tokens in the mirror
-/

theorem span (h : Mirrors text regions a b) :
    a.span = { start := offsetOf text b.span.start, stop := offsetOf text b.span.stop } :=
  TokenBounds.span_of_translated (offsetOf_min text) h.start_eq h.stop_eq h.pos_eq

theorem tokenText (h : Mirrors text regions a b) :
    a.tokenText = String.ofList
      ((text.toList.drop b.span.start).take (b.span.stop - b.span.start)) := by
  have hle : b.span.start ≤ b.span.stop := TokenBounds.span_start_le_stop b.bounds b.pos
  have hstop : text.toList.take b.span.stop = text.toList.take b.span.start ++
      (text.toList.drop b.span.start).take (b.span.stop - b.span.start) := by
    rw [← List.take_add, Nat.add_sub_cancel' hle]
  have htext : text.toList = text.toList.take b.span.start ++
      (text.toList.drop b.span.start).take (b.span.stop - b.span.start) ++
        text.toList.drop b.span.stop := by
    rw [← hstop, List.take_append_drop]
  have hslice := Reader.slice_of_over h.over_text htext
  rw [← hstop] at hslice
  rw [TextHost.tokenText, h.span]
  exact hslice

end Mirrors

end StatementEnd
