import StatementEnd.Proofs.Lockstep
import StatementEnd.Proofs.Walk

/-!
# How far a routine looks

No routine looks past the character at which it stops. On two texts that start alike, and
share the character behind the place where a routine stops on the first one, it does the
same: it would have to get past that character to tell them apart, and no host goes back.
-/

namespace StatementEnd

open Text
open Outcome (AgreesUntil)

variable {shared : List Char} {text other : String} {limit : Nat}

/-!
## Texts that start alike
-/

namespace Text

variable {i offset stop : Nat}

theorem getElem?_octets_shared (htext : shared <+: text.toList)
    (hlt : i < (encode shared).length) : (octets text)[i]? = (encode shared)[i]? := by
  rcases htext with ⟨rest, htext⟩
  rw [octets, ← htext, encode_append, List.getElem?_append_left hlt]

theorem length_encode_le {front : List Char} (h : front <+: shared) :
    (encode front).length ≤ (encode shared).length := by
  rcases h with ⟨rest, hshared⟩
  rw [← hshared, encode_append, List.length_append]
  exact Nat.le_add_right _ _

/-- A character that starts inside the shared front lies in it. -/
theorem starts_of_length_lt {front back : List Char} {c : Char}
    (htext : shared <+: text.toList) (hsplit : text.toList = front ++ c :: back)
    (hlt : (encode front).length < (encode shared).length) : front ++ [c] <+: shared := by
  have hchar : front ++ [c] <+: text.toList := ⟨back, by simp [hsplit]⟩
  rcases List.prefix_or_prefix_of_prefix hchar htext with hinside | hshort
  · exact hinside
  · rcases List.prefix_concat_iff.mp hshort with heq | hfront
    · exact ⟨[], by rw [heq, List.append_nil]⟩
    · exact absurd (length_encode_le hfront) (Nat.not_le_of_lt hlt)

namespace Reader

variable {a b : Reader}

/-- Two readers show the same character and step to the same offset. -/
structure StepsAlike (a b : Reader) : Prop where
  char : a.char = b.char
  atEnd : a.atEnd = b.atEnd
  pos : a.advance.pos = b.advance.pos

theorem stepsAlike_of_between {front back back' : List Char} {c : Char}
    (h : a.Between front (c :: back)) (h' : b.Between front (c :: back')) : StepsAlike a b where
  char := by rw [char_of_between_cons h, char_of_between_cons h']
  atEnd := by rw [atEnd_of_between_cons h, atEnd_of_between_cons h']
  pos := by rw [(advance_of_between_cons h).pos, (advance_of_between_cons h').pos]

/-- Inside the shared front two readers at the same offset cannot tell their texts apart. -/
theorem stepsAlike_of_shared (ha : a.Over text) (hb : b.Over other) (hpos : b.pos = a.pos)
    (htext : shared <+: text.toList) (hother : shared <+: other.toList)
    (hlt : a.pos < (encode shared).length) : StepsAlike a b := by
  have hthere := List.getElem?_eq_getElem hlt
  generalize (encode shared)[a.pos] = octet at hthere
  have hoctet : (octets text)[a.pos]? = some octet := by
    rw [getElem?_octets_shared htext hlt, hthere]
  have hoctet' : (octets other)[b.pos]? = some octet := by
    rw [hpos, getElem?_octets_shared hother hlt, hthere]
  -- only from a byte that leads a sequence does a reader decode the bytes behind it
  by_cases hfirst : octet.IsUTF8FirstByte
  · rcases exists_between ha hoctet hfirst with ⟨front, back, c, hsplit, hfront, hbetween⟩
    rw [hfront] at hlt
    rcases (starts_of_length_lt htext hsplit hlt).trans hother with ⟨back', hsplit'⟩
    rw [List.append_assoc, List.singleton_append] at hsplit'
    have hbetween' : b.Between front (c :: back') := by
      constructor
      · rw [hsplit', String.ofList_toList]
        exact hb.text_eq
      · rw [hpos]
        exact hbetween.pos
    exact stepsAlike_of_between hbetween hbetween'
  · have hwidth := width_of_not_isUTF8FirstByte hfirst
    constructor
    · rw [char_of_inner ha hoctet hfirst, char_of_inner hb hoctet' hfirst]
    · rw [atEnd_of_octet ha hoctet, atEnd_of_octet hb hoctet']
    · rw [pos_advance_of_width_one ha hoctet hwidth,
        pos_advance_of_width_one hb hoctet' hwidth, hpos]

/-- A line that ends inside the shared front ends there in both texts. -/
theorem lineEnd_of_shared (htext : shared <+: text.toList) (hother : shared <+: other.toList)
    (hlt : stop < (encode shared).length) (h : LineEnd (octets text) offset stop) :
    LineEnd (octets other) offset stop where
  le := h.le
  le_length := Nat.le_trans (Nat.le_of_lt hlt) (length_encode_le hother)
  no_newline i hfrom hto := by
    have hin := Nat.lt_trans hto hlt
    rw [getElem?_octets_shared hother hin, ← getElem?_octets_shared htext hin]
    exact h.no_newline i hfrom hto
  newline := by
    right
    rw [getElem?_octets_shared hother hlt, ← getElem?_octets_shared htext hlt]
    rcases h.newline with hend | hnewline
    · rw [hend] at hlt
      exact absurd (length_encode_le htext) (Nat.not_le_of_lt hlt)
    · exact hnewline

end Reader
end Text

/-!
## Two hosts up to an offset
-/

namespace TextHost

variable {a b : TextHost}

/-- The host with another text in place of its own. -/
def withText (host : TextHost) (text : String) : TextHost :=
  { host with reader := { host.reader with text := .pad text } }

/-- The host got past an offset of its text. -/
def PastLimit (text : String) (limit : Nat) (host : TextHost) : Prop :=
  host.Over text ∧ limit < host.pos

theorem lively_pastLimit (text : String) (limit : Nat) : Lively (PastLimit text limit) := by
  apply (lively text).withInvariant
  · intro host hover hpast
    exact Nat.lt_of_lt_of_le hpast (Reader.pos_le_advance hover)
  · intro host hover hpast
    exact Nat.lt_of_lt_of_le hpast (Reader.pos_le_advance hover)
  · intro host _ hpast
    exact hpast
  · intro host hover hpast
    exact Nat.lt_of_lt_of_le hpast (Reader.lineEnd_toLineEnd hover).le

/-- Two hosts that only differ in their texts, and stand no further than an offset which
lies in what both texts start with. -/
structure SameUpTo (shared : List Char) (text other : String) (limit : Nat)
    (a b : TextHost) : Prop where
  text_starts : shared <+: text.toList
  other_starts : shared <+: other.toList
  other_fits : other.utf8ByteSize < UInt32.size
  limit_lt : limit < (encode shared).length
  over_text : a.Over text
  pos_le : a.pos ≤ limit
  other_eq : b = a.withText other

namespace SameUpTo

theorem over_other (h : SameUpTo shared text other limit a b) : b.Over other := by
  have hle := length_encode_le h.other_starts
  rw [h.other_eq]
  exact ⟨rfl, h.other_fits, Nat.le_trans h.pos_le (Nat.le_trans (Nat.le_of_lt h.limit_lt) hle)⟩

theorem stepsAlike (h : SameUpTo shared text other limit a b) :
    Reader.StepsAlike a.reader b.reader := by
  apply Reader.stepsAlike_of_shared h.over_text h.over_other ?_ h.text_starts h.other_starts
  · exact Nat.lt_of_le_of_lt h.pos_le h.limit_lt
  · rw [h.other_eq]
    rfl

/-- A host over the text is past the limit, or the host over the other text is the same. -/
theorem past_or_same (h : SameUpTo shared text other limit a b) {host : TextHost}
    (hover : host.Over text) :
    PastLimit text limit host ∨
      SameUpTo shared text other limit host (host.withText other) := by
  rcases Nat.lt_or_ge limit host.pos with hpast | hle
  · exact Or.inl ⟨hover, hpast⟩
  · exact Or.inr ⟨h.text_starts, h.other_starts, h.other_fits, h.limit_lt, hover, hle, rfl⟩

theorem reader_advance (h : SameUpTo shared text other limit a b) :
    b.reader.advance = { a.reader.advance with text := .pad other } := by
  rw [Reader.advance_eq b.reader, ← h.stepsAlike.pos, h.other_eq]
  rfl

theorem advance (h : SameUpTo shared text other limit a b) :
    PastLimit text limit (Host.advance a) ∨
      SameUpTo shared text other limit (Host.advance a) (Host.advance b) := by
  have hother : Host.advance b = (Host.advance a).withText other := by
    show { b with reader := b.reader.advance } = _
    rw [h.reader_advance, h.other_eq]
    rfl
  rw [hother]
  exact h.past_or_same (Reader.over_advance h.over_text)

theorem skip (h : SameUpTo shared text other limit a b) :
    PastLimit text limit (Host.skip a) ∨
      SameUpTo shared text other limit (Host.skip a) (Host.skip b) := by
  have hother : Host.skip b = (Host.skip a).withText other := by
    show b.skipTo b.reader.advance = _
    rw [h.reader_advance, h.other_eq]
    rfl
  rw [hother]
  exact h.past_or_same (Reader.over_advance h.over_text)

theorem markEnd (h : SameUpTo shared text other limit a b) :
    SameUpTo shared text other limit (Host.markEnd a) (Host.markEnd b) := by
  refine ⟨h.text_starts, h.other_starts, h.other_fits, h.limit_lt, h.over_text, h.pos_le, ?_⟩
  rw [h.other_eq]
  rfl

/-- The search for the end of a line looks at the whole rest of the text, but what it finds
beyond the limit does not matter. -/
theorem skipLine (h : SameUpTo shared text other limit a b) :
    AgreesUntil (PastLimit text limit) (SameUpTo shared text other limit)
      (LineHost.skipLine a) (LineHost.skipLine b) := by
  have hover := Reader.over_toLineEnd h.over_text
  rcases Nat.lt_or_ge limit a.reader.toLineEnd.pos with hpast | hle
  · exact AgreesUntil.of_past ⟨hover, hpast⟩
  · -- a newline that is found within the limit stands in what both texts start with
    have hline := Reader.lineEnd_of_shared h.text_starts h.other_starts
      (Nat.lt_of_le_of_lt hle h.limit_lt) (Reader.lineEnd_toLineEnd h.over_text)
    have hstart : b.reader.pos = a.reader.pos := by
      rw [h.other_eq]
      rfl
    rw [← hstart] at hline
    have hstop := Reader.lineEnd_unique (Reader.lineEnd_toLineEnd h.over_other) hline
    apply AgreesUntil.done
    refine ⟨h.text_starts, h.other_starts, h.other_fits, h.limit_lt, hover, hle, ?_⟩
    show b.skipTo { b.reader with pos := b.reader.toLineEnd.pos } = _
    rw [hstop, h.other_eq]
    rfl

/-- Hosts that cannot tell their texts apart are in lockstep until they get past the limit. -/
theorem lockstep (shared : List Char) (text other : String) (limit : Nat) :
    LockstepUntil (PastLimit text limit) (fun host : TextHost => host.Over text)
      (fun host : TextHost => host.Over other) (SameUpTo shared text other limit) where
  left := lively text
  right := lively other
  past := lively_pastLimit text limit
  on_left h := h.over_text
  on_right h := h.over_other
  lookahead h := h.stepsAlike.char
  atEnd h := h.stepsAlike.atEnd
  atRegionStart h := by
    rw [h.other_eq]
    rfl
  advance h _ := h.advance
  skip h _ := h.skip
  markEnd h := h.markEnd
  skipLine h _ := by
    rcases h.skip with hpast | hskip
    · exact AgreesUntil.of_past ((lively_pastLimit text limit).kept_skipLine hpast)
    · exact hskip.skipLine

end SameUpTo

/-!
## Routines
-/

/-- Hosts over two sources of which the same characters are kept in front, put where the
last of these starts or before. -/
theorem sameUpTo_opened {source source' front : String} {c : Char} {offset : Nat}
    (htext : front.toList ++ [c] <+: (kept source).toList)
    (hother : front.toList ++ [c] <+: (kept source').toList)
    (hoffset : offset ≤ front.utf8ByteSize) (regions : List Nat) :
    SameUpTo (front.toList ++ [c]) (kept source) (kept source') front.utf8ByteSize
      (opened source regions offset) (opened source' regions offset) := by
  have hlength : (encode (front.toList ++ [c])).length = front.utf8ByteSize + c.utf8Size := by
    rw [encode_append, List.length_append, length_encode, String.ofList_toList]
    simp
  have hlimit : front.utf8ByteSize < (encode (front.toList ++ [c])).length := by
    rw [hlength]
    exact Nat.lt_add_of_pos_right c.utf8Size_pos
  have hin : forall {whole : String}, front.toList ++ [c] <+: whole.toList ->
      offset ≤ whole.utf8ByteSize := by
    intro whole hwhole
    rw [← length_octets]
    exact Nat.le_trans hoffset
      (Nat.le_trans (Nat.le_of_lt hlimit) (length_encode_le hwhole))
  refine ⟨htext, hother, fits_kept source', hlimit, over_opened source regions offset, ?_, ?_⟩
  · rw [opened_of_le (hin htext)]
    exact hoffset
  · rw [opened_of_le (hin htext), opened_of_le (hin hother)]
    rfl

/-- A routine ended the same on two texts, and was cut off on neither. -/
structure SameEnd (s t : Outcome TextHost Verdict) : Prop where
  result : s.result = t.result
  events : s.events = t.events
  settled : s.stalled = false ∧ t.stalled = false
  pos : s.host.pos = t.host.pos
  lookahead : Host.lookahead s.host = Host.lookahead t.host
  atEnd : Host.atEnd s.host = Host.atEnd t.host
  atRegionStart : Host.atRegionStart s.host = Host.atRegionStart t.host
  span : s.host.span = t.host.span

theorem sameEnd_of_kept_eq {source source' : String} (hkept : kept source = kept source')
    (regions : List Nat) (offset : Nat) (routine : Routine) :
    SameEnd (routine.run (opened source regions offset))
      (routine.run (opened source' regions offset)) := by
  have hsame : opened source regions offset = opened source' regions offset := by
    simp only [opened, ofString, Reader.ofString, PaddedText.ofString, hkept]
  have hsettled := (lively _).settled_run (over_opened source' regions offset) routine
  rw [hsame]
  exact ⟨rfl, rfl, ⟨hsettled, hsettled⟩, rfl, rfl, rfl, rfl, rfl⟩

/-- A routine that stops in front of a character or before has not looked at anything
behind that character. -/
theorem stop_bounds_what_was_read (front rest other : String) (c : Char) (regions : List Nat)
    {offset : Nat} (hoffset : offset ≤ front.utf8ByteSize) (routine : Routine)
    (hstop : (routine.run (opened (front ++ String.singleton c ++ rest) regions
      offset)).host.pos ≤ front.utf8ByteSize) :
    SameEnd (routine.run (opened (front ++ String.singleton c ++ rest) regions offset))
      (routine.run (opened (front ++ String.singleton c ++ other) regions offset)) := by
  -- Where the character itself is not kept, nothing behind it is.
  rcases Nat.lt_or_ge (front ++ String.singleton c).utf8ByteSize UInt32.size with hfits | hlong
  · have hstarts : forall behind : String,
        front.toList ++ [c] <+: (kept (front ++ String.singleton c ++ behind)).toList := by
      intro behind
      have hchars : (front ++ String.singleton c).toList = front.toList ++ [c] := by
        rw [String.toList_append, String.toList_singleton]
      apply isPrefix_kept
      · rw [String.toList_append, hchars]
        exact List.prefix_append _ _
      · rw [← hchars, ← octets, length_octets]
        exact hfits
    have hstart := sameUpTo_opened (hstarts rest) (hstarts other) hoffset regions
    rcases (SameUpTo.lockstep _ _ _ _).run hstart routine with hpast | hagrees
    · exact absurd hpast.2 (Nat.not_lt_of_le hstop)
    · have hsame := hagrees.host
      refine ⟨hagrees.result, hagrees.events, hagrees.settled, ?_, hsame.stepsAlike.char,
        hsame.stepsAlike.atEnd, ?_, ?_⟩
      · rw [hsame.other_eq]
        rfl
      · rw [hsame.other_eq]
        rfl
      · rw [hsame.other_eq]
        rfl
  · apply sameEnd_of_kept_eq
    rw [kept_append_of_long hlong, kept_append_of_long hlong]

theorem stop_bounds_what_was_read_of_word :
    0 ≤ "\n ".utf8ByteSize ∧
      (Routine.semicolon.run (opened "\n a.b" [] 0)).host.pos ≤ "\n ".utf8ByteSize ∧
      (Routine.semicolon.run (opened "\n a.b" [] 0)).result = .flag true ∧
      SameEnd (Routine.semicolon.run (opened "\n a.b" [] 0))
        (Routine.semicolon.run (opened "\n a" [] 0)) := by
  have hrest : "\n " ++ String.singleton 'a' ++ ".b" = "\n a.b" := by decide
  have hother : "\n " ++ String.singleton 'a' ++ "" = "\n a" := by decide
  have hstop : (Routine.semicolon.run (opened "\n a.b" [] 0)).host.pos ≤
      "\n ".utf8ByteSize := by
    decide +kernel
  have hresult : (Routine.semicolon.run (opened "\n a.b" [] 0)).result = .flag true := by
    decide +kernel
  have hsame := @stop_bounds_what_was_read "\n " ".b" "" 'a' [] 0 (Nat.zero_le _) .semicolon
  rw [hrest, hother] at hsame
  exact ⟨Nat.zero_le _, hstop, hresult, hsame hstop⟩

end TextHost
end StatementEnd
