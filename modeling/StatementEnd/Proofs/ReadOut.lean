import Mathlib.Data.Nat.Find
import StatementEnd.Proofs.Reading

/-!
# Reading out a text

A reader that is put at an offset and stepped to the end shows the whole rest of the text
that it keeps.
Inside a character it shows U+FFFD once for each byte up to the next boundary, and from there
on every character of the text once, where it stands. A zero byte inside the text is a
character like any other and does not end the reading.
-/

namespace StatementEnd
namespace Text

/-- A reader that is stepped to the end shows these characters at these offsets, and is left
like this. -/
inductive ReadsOut : Reader -> List (Nat × Char) -> Reader -> Prop where
  | done {reader : Reader} : reader.atEnd = true -> ReadsOut reader [] reader
  | step {reader last : Reader} {entries : List (Nat × Char)} : reader.atEnd = false ->
      ReadsOut reader.advance entries last ->
      ReadsOut reader ((reader.pos, reader.char) :: entries) last

/-- Characters with the offsets at which they start, the first one at a given offset. -/
def placedFrom (offset : Nat) : List Char -> List (Nat × Char)
  | [] => []
  | c :: rest => (offset, c) :: placedFrom (offset + c.utf8Size) rest

/-- One U+FFFD for each offset from one up to another. -/
def torn (start stop : Nat) : List (Nat × Char) :=
  (List.range' start (stop - start)).map fun offset => (offset, '\uFFFD')

/-- The first boundary at or behind an offset. -/
structure NextBoundary (text : String) (offset stop : Nat) : Prop where
  le : offset ≤ stop
  boundary : CharBoundary text stop
  first : forall i, offset ≤ i -> i < stop -> ¬ CharBoundary text i

variable {text : String} {offset stop : Nat}

/-!
## The next boundary
-/

theorem exists_nextBoundary (h : offset ≤ (octets text).length) :
    exists stop, NextBoundary text offset stop := by
  classical
  have hexists : exists stop, offset ≤ stop ∧ CharBoundary text stop :=
    ⟨(octets text).length, h, boundary_length text⟩
  refine ⟨Nat.find hexists, (Nat.find_spec hexists).1, (Nat.find_spec hexists).2, ?_⟩
  intro i hfrom hto hboundary
  exact Nat.find_min hexists hto ⟨hfrom, hboundary⟩

theorem NextBoundary.succ (h : NextBoundary text offset stop) (hlt : offset < stop) :
    NextBoundary text (offset + 1) stop where
  le := hlt
  boundary := h.boundary
  first i hfrom := h.first i (Nat.le_of_succ_le hfrom)

theorem torn_self (start : Nat) : torn start start = [] := by
  rw [torn, Nat.sub_self]
  rfl

theorem torn_of_lt (h : offset < stop) :
    torn offset stop = (offset, '\uFFFD') :: torn (offset + 1) stop := by
  have hcount : stop - offset = (stop - (offset + 1)) + 1 := by omega
  rw [torn, hcount, List.range'_succ]
  rfl

/-!
## Readings
-/

namespace ReadsOut

variable {reader last last' : Reader} {entries entries' : List (Nat × Char)}

theorem unique (h : ReadsOut reader entries last) (h' : ReadsOut reader entries' last') :
    entries = entries' ∧ last = last' := by
  induction h generalizing entries' last' with
  | done hend =>
      cases h' with
      | done _ => exact ⟨rfl, rfl⟩
      | step hmore _ =>
          rw [hend] at hmore
          cases hmore
  | step hmore _ ih =>
      cases h' with
      | done hend =>
          rw [hend] at hmore
          cases hmore
      | step _ hrest =>
          rcases ih hrest with ⟨hentries, hlast⟩
          exact ⟨by rw [hentries], hlast⟩

end ReadsOut

namespace Reader

variable {reader : Reader} {front back : List Char}

/-- The reader put at the end of its text. -/
def toEnd (reader : Reader) : Reader :=
  reader.seek reader.text.length

theorem toEnd_of_pos (h : reader.pos = reader.text.length) : reader.toEnd = reader := by
  rw [toEnd, seek, Nat.min_self, ← h]

theorem toEnd_advance (reader : Reader) : reader.advance.toEnd = reader.toEnd := by
  rw [toEnd, text_advance, advance_eq]
  rfl

theorem pos_advance_of_between_cons {c : Char} (h : reader.Between front (c :: back)) :
    reader.advance.pos = reader.pos + c.utf8Size := by
  rw [pos_of_between (advance_of_between_cons h), pos_of_between h]
  simp [List.utf8Encode_singleton]

/-- From a boundary on a reader shows the characters that are left. -/
theorem readsOut_of_between (h : reader.Between front back) :
    ReadsOut reader (placedFrom reader.pos back) reader.toEnd := by
  induction back generalizing reader front with
  | nil =>
      rw [toEnd_of_pos (length_of_between h).symm]
      exact ReadsOut.done (atEnd_of_between_nil h)
  | cons c back ih =>
      have hrest := ih (advance_of_between_cons h)
      rw [pos_advance_of_between_cons h, toEnd_advance] at hrest
      have hshown : (reader.pos, c) = (reader.pos, reader.char) := by
        rw [char_of_between_cons h]
      rw [placedFrom, hshown]
      exact ReadsOut.step (atEnd_of_between_cons h) hrest

/-- Before the next boundary a reader shows U+FFFD and moves on by one byte. -/
theorem inner_of_not_boundary (h : reader.Over text)
    (hinner : ¬ CharBoundary text reader.pos) :
    reader.atEnd = false ∧ reader.char = '\uFFFD' ∧
      reader.advance.pos = reader.pos + 1 := by
  have hend : reader.atEnd = false := by
    apply Bool.eq_false_iff.mpr
    intro hend
    rw [(atEnd_iff h).mp hend] at hinner
    exact hinner (boundary_length text)
  rcases exists_octet h hend with ⟨octet, hoctet⟩
  have hfirst : ¬ octet.IsUTF8FirstByte :=
    fun hfirst => hinner (boundary_of_isUTF8FirstByte hoctet hfirst)
  exact ⟨hend, char_of_inner h hoctet hfirst,
    pos_advance_of_width_one h hoctet (width_of_not_isUTF8FirstByte hfirst)⟩

theorem readsOut_of_nextBoundary (h : reader.Over text)
    (hstop : NextBoundary text reader.pos stop) {back : List Char}
    (hback : exists front, text.toList = front ++ back ∧ stop = (encode front).length) :
    ReadsOut reader (torn reader.pos stop ++ placedFrom stop back) reader.toEnd := by
  induction hn : stop - reader.pos generalizing reader with
  | zero =>
      have heq : reader.pos = stop := Nat.le_antisymm hstop.le (Nat.le_of_sub_eq_zero hn)
      rcases hback with ⟨front, htext, hfront⟩
      have hbetween : reader.Between front back := by
        constructor
        · rw [← htext, String.ofList_toList, h.text_eq]
        · rw [heq, hfront, length_encode]
      rw [heq, torn_self, List.nil_append, ← heq]
      exact readsOut_of_between hbetween
  | succ n ih =>
      have hlt : reader.pos < stop := Nat.lt_of_sub_eq_succ hn
      rcases inner_of_not_boundary h (hstop.first _ (Nat.le_refl _) hlt) with
        ⟨hend, hchar, hnext⟩
      have hafter : NextBoundary text reader.advance.pos stop := by
        rw [hnext]
        exact hstop.succ hlt
      have hrest := ih (over_advance h) hafter (by omega)
      rw [hnext, toEnd_advance] at hrest
      rw [torn_of_lt hlt, List.cons_append, ← hchar]
      exact ReadsOut.step hend hrest

/-- Wherever a reader is put, it reads out the rest of what is kept of the source: U+FFFD
for each byte up to the next boundary, then each character at its own offset. It comes to
the end of the kept text and stays there. -/
theorem seek_reads_out_rest (source : String) (offset : Nat) :
    exists front back,
      (kept source).toList = front ++ back ∧
      NextBoundary (kept source) (min offset (kept source).utf8ByteSize)
        (encode front).length ∧
      (forall entries last, ReadsOut ((ofString source).seek offset) entries last <->
        entries = torn (min offset (kept source).utf8ByteSize) (encode front).length ++
            placedFrom (encode front).length back ∧
          last = (ofString source).toEnd) ∧
      (ofString source).toEnd.pos = (kept source).utf8ByteSize ∧
      (ofString source).toEnd.advance = (ofString source).toEnd := by
  have hover := over_seek (over_ofString source) offset
  rcases exists_nextBoundary hover.pos_le with ⟨stop, hstop⟩
  rcases hstop.boundary with ⟨front, back, htext, hfront⟩
  have hreads := readsOut_of_nextBoundary hover hstop ⟨front, htext, hfront⟩
  subst hfront
  refine ⟨front, back, htext, hstop, ?_, Nat.min_self _, ?_⟩
  · intro entries last
    constructor
    · intro hother
      exact hother.unique hreads
    · intro hsame
      rw [hsame.1, hsame.2]
      exact hreads
  · have hend : (ofString source).toEnd.Over (kept source) :=
      over_seek (over_ofString source) _
    apply advance_of_atEnd
    rw [atEnd_iff hend, length_octets]
    exact Nat.min_self _

/-- Inside the two bytes of an accented letter the reader is torn, then comes the next letter. -/
example : ((ofString "\u00e9x").seek 1).char = '\uFFFD' ∧
    ((ofString "\u00e9x").seek 1).advance.pos = 2 ∧
      ((ofString "\u00e9x").seek 1).advance.char = 'x' := by
  decide +kernel

end Reader
end Text
end StatementEnd
