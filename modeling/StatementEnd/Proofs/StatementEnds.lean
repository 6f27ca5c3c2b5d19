import StatementEnd.Proofs.NextLine
import StatementEnd.Proofs.RegionLookup

/-!
# Where a statement ends

The decision about a semicolon against the rule it follows, written over the bytes of
the text and the list of range starts alone. The first line is decided where its blanks
end or at the first range start among them; behind a newline the filler is divided off
and the rest is judged by its first characters.
-/

namespace StatementEnd

open Text

namespace Semicolon

open Filler

/-- White space other than the newline. -/
def blanks : List Char := [' ', '\t', '\x0b', '\x0c', '\r']

def isBlankOctet (octet : UInt8) : Bool :=
  blanks.any fun c => octet == c.toUInt8

/-- The offset behind the blanks at an offset. -/
def blanksEnd (bytes : List UInt8) (start : Nat) : Nat :=
  start + ((bytes.drop start).takeWhile isBlankOctet).length

/-- The statement ends on its own line: before the end of input, before a closing brace,
or because a range starts between the offset and the end of the blanks. -/
def EndsOnLine (bytes : List UInt8) (regions : List Nat) (start : Nat) : Prop :=
  blanksEnd bytes start = bytes.length ∨
    bytes[blanksEnd bytes start]? = some '}'.toUInt8 ∨
      exists region, region ∈ regions ∧ start ≤ region ∧ region ≤ blanksEnd bytes start

/-- The rest behind all leading filler starts a statement. -/
def StartsBehindFiller (bytes : List UInt8) : Prop :=
  exists pieces rest, Divides bytes pieces rest ∧ StartsStatement rest

/-- A statement ends at an offset although no semicolon stands there. -/
def EndsStatement (bytes : List UInt8) (regions : List Nat) (start : Nat) : Prop :=
  EndsOnLine bytes regions start ∨
    (bytes[blanksEnd bytes start]? = some '\n'.toUInt8 ∧
      StartsBehindFiller (bytes.drop (blanksEnd bytes start + 1)))

variable {bytes : List UInt8} {start : Nat} {octet : UInt8}

/-!
## Blanks
-/

theorem plain_of_mem_blanks : forall c, c ∈ blanks -> IsPlain c :=
  forall_mem_of_all (by decide)

theorem mem_blanks_iff {c : Char} : c ∈ blanks <-> isSpace c = true ∧ c ≠ '\n' := by
  rw [isSpace_iff]
  constructor
  · intro hmem
    have hall : forall c, c ∈ blanks -> c ∈ spaces ∧ c ≠ '\n' :=
      forall_mem_of_all (by decide)
    exact hall c hmem
  · intro h
    have hall : forall c, c ∈ spaces -> c ≠ '\n' -> c ∈ blanks :=
      forall_mem_of_all (by decide)
    exact hall c h.1 h.2

theorem isBlankOctet_iff : isBlankOctet octet = true <->
    exists c, c ∈ blanks ∧ octet = c.toUInt8 := by
  simp [isBlankOctet]

theorem ascii_of_isBlankOctet (h : isBlankOctet octet = true) : octet < 0x80 := by
  rcases isBlankOctet_iff.mp h with ⟨c, hmem, heq⟩
  rw [heq]
  exact Reader.toUInt8_lt (plain_of_mem_blanks c hmem).1

theorem blanksEnd_le_length (h : start ≤ bytes.length) :
    blanksEnd bytes start ≤ bytes.length := by
  have hprefix := (List.takeWhile_prefix isBlankOctet (l := bytes.drop start)).length_le
  rw [List.length_drop] at hprefix
  rw [blanksEnd]
  omega

theorem blank_of_lt_takeWhile {i : Nat} (h : i < (bytes.takeWhile isBlankOctet).length) :
    exists octet, bytes[i]? = some octet ∧ isBlankOctet octet = true := by
  induction bytes generalizing i with
  | nil => exact absurd h (Nat.not_lt_zero i)
  | cons first rest ih =>
      cases hfirst : isBlankOctet first with
      | true =>
          rw [List.takeWhile_cons_of_pos hfirst, List.length_cons] at h
          cases i with
          | zero => exact ⟨first, rfl, hfirst⟩
          | succ i => exact ih (Nat.lt_of_succ_lt_succ h)
      | false =>
          rw [List.takeWhile_cons_of_neg (by rw [hfirst]; exact Bool.false_ne_true)] at h
          exact absurd h (Nat.not_lt_zero i)

theorem not_blank_at_takeWhile
    (h : bytes[(bytes.takeWhile isBlankOctet).length]? = some octet) :
    isBlankOctet octet = false := by
  induction bytes with
  | nil => cases h
  | cons first rest ih =>
      cases hfirst : isBlankOctet first with
      | true =>
          rw [List.takeWhile_cons_of_pos hfirst] at h
          exact ih h
      | false =>
          rw [List.takeWhile_cons_of_neg (by rw [hfirst]; exact Bool.false_ne_true)] at h
          cases h
          exact hfirst

/-- Before the end of the blanks there are only blanks. -/
theorem blank_of_lt_blanksEnd {i : Nat} (hfrom : start ≤ i) (hto : i < blanksEnd bytes start) :
    exists octet, bytes[i]? = some octet ∧ isBlankOctet octet = true := by
  have hlt : i - start < ((bytes.drop start).takeWhile isBlankOctet).length := by
    rw [blanksEnd] at hto
    omega
  have hfound := blank_of_lt_takeWhile hlt
  rw [List.getElem?_drop, Nat.add_sub_cancel' hfrom] at hfound
  exact hfound

theorem not_blank_at_blanksEnd (hoctet : bytes[blanksEnd bytes start]? = some octet) :
    isBlankOctet octet = false := by
  rw [blanksEnd, ← List.getElem?_drop] at hoctet
  exact not_blank_at_takeWhile hoctet

end Semicolon

namespace TextHost

open Semicolon Filler

variable {host : TextHost} {text : String} {stop : Nat}

/-!
## The first line
-/

theorem onBlank_iff (h : host.Over text) :
    onBlank host = true <->
      (exists octet, (octets text)[host.pos]? = some octet ∧ isBlankOctet octet = true) ∧
        host.regions.contains host.pos = false := by
  have hblank := lookahead_mem_iff h plain_of_mem_blanks
  simp only [isBlankOctet_iff]
  rw [onBlank_eq_true, ← hblank, mem_blanks_iff]
  constructor
  · intro hhere
    exact ⟨hhere.2.2, hhere.2.1⟩
  · intro hhere
    rcases hhere with ⟨⟨hspace, hnewline⟩, hregion⟩
    rcases hblank.mp (mem_blanks_iff.mpr ⟨hspace, hnewline⟩) with ⟨octet, hoctet, _⟩
    exact ⟨Reader.atEnd_of_octet h hoctet, hregion, hspace, hnewline⟩

theorem onBlank_jump_iff (h : host.Over text) (hlen : stop ≤ (octets text).length) :
    onBlank (host.jump stop) = true <->
      (exists octet, (octets text)[stop]? = some octet ∧ isBlankOctet octet = true) ∧
        host.regions.contains stop = false := by
  rw [onBlank_iff (over_jump h hlen), pos_jump, regions_jump]

/-- The stop of the first line: the end of the blanks, or the first range start before
that end. -/
structure StopsLine (host : TextHost) (bytes : List UInt8) (stop : Nat) : Prop where
  le : host.pos ≤ stop
  le_blanksEnd : stop ≤ blanksEnd bytes host.pos
  no_region : forall i, host.pos ≤ i -> i < stop -> host.regions.contains i = false
  cause : stop = blanksEnd bytes host.pos ∨ host.regions.contains stop = true

theorem exists_stopsLine (host : TextHost) (bytes : List UInt8) :
    exists stop, StopsLine host bytes stop := by
  have hcount : forall count, exists stop, host.pos ≤ stop ∧ stop ≤ host.pos + count ∧
      (forall i, host.pos ≤ i -> i < stop -> host.regions.contains i = false) ∧
        (stop = host.pos + count ∨ host.regions.contains stop = true) := by
    intro count
    induction count with
    | zero =>
        refine ⟨host.pos, Nat.le_refl _, Nat.le_refl _, ?_, Or.inl rfl⟩
        intro i hfrom hto
        exact absurd hfrom (Nat.not_le_of_lt hto)
    | succ count ih =>
        rcases ih with ⟨stop, hfrom, hto, hquiet, hstop⟩
        cases hregion : host.regions.contains stop with
        | true => exact ⟨stop, hfrom, Nat.le_succ_of_le hto, hquiet, Or.inr hregion⟩
        | false =>
            have hend : stop = host.pos + count := by
              rcases hstop with heq | hstarts
              · exact heq
              · rw [hregion] at hstarts
                cases hstarts
            refine ⟨stop + 1, Nat.le_succ_of_le hfrom, by omega, ?_, Or.inl (by omega)⟩
            intro i hi hbefore
            rcases Nat.eq_or_lt_of_le (Nat.le_of_lt_succ hbefore) with heq | hlt
            · rw [heq]
              exact hregion
            · exact hquiet i hi hlt
  rcases hcount _ with ⟨stop, hfrom, hto, hquiet, hstop⟩
  exact ⟨stop, hfrom, hto, hquiet, hstop⟩

theorem le_length_of_stopsLine (h : host.Over text)
    (hstop : StopsLine host (octets text) stop) : stop ≤ (octets text).length :=
  Nat.le_trans hstop.le_blanksEnd (blanksEnd_le_length h.pos_le)

/-- A line that no range start stops is read to the end of its blanks. -/
theorem blanksEnd_of_no_region {bytes : List UInt8} (hstop : StopsLine host bytes stop)
    (hregion : Host.atRegionStart (host.jump stop) = false) :
    stop = blanksEnd bytes host.pos ∧
      forall i, host.pos ≤ i -> i ≤ stop -> host.regions.contains i = false := by
  rw [atRegionStart_jump] at hregion
  constructor
  · rcases hstop.cause with heq | hstarts
    · exact heq
    · rw [hregion] at hstarts
      cases hstarts
  · intro i hfrom hto
    rcases Nat.eq_or_lt_of_le hto with heq | hbefore
    · rw [heq]
      exact hregion
    · exact hstop.no_region i hfrom hbefore

theorem readLine_eq_jump (h : host.Over text) (hstop : StopsLine host (octets text) stop) :
    readLine host = .done (host.jump stop) (lineStop (host.jump stop)) := by
  have hlen := le_length_of_stopsLine h hstop
  have hend := hstop.le_blanksEnd
  have hland : stop = host.pos ∨ CharBoundary text stop := by
    rcases Nat.eq_or_lt_of_le hstop.le with heq | hlt
    · exact Or.inl heq.symm
    · apply Or.inr
      have hfrom : host.pos ≤ stop - 1 := by omega
      have hto : stop - 1 < blanksEnd (octets text) host.pos := by omega
      rcases blank_of_lt_blanksEnd hfrom hto with ⟨octet, hoctet, hblank⟩
      exact boundary_of_ascii_before (by omega) hoctet (ascii_of_isBlankOctet hblank)
  have hrun : Host.skipWhile onBlank host = .done (host.jump stop) () := by
    apply skipWhile_eq_jump h hstop.le hlen hland
    · intro i hfrom hto
      apply (onBlank_jump_iff h (by omega)).mpr
      exact ⟨blank_of_lt_blanksEnd hfrom (by omega), hstop.no_region i hfrom hto⟩
    · apply Bool.eq_false_iff.mpr
      intro hblank
      rcases (onBlank_jump_iff h hlen).mp hblank with ⟨⟨octet, hoctet, hisBlank⟩, hregion⟩
      rcases hstop.cause with heq | hstarts
      · rw [heq] at hoctet
        rw [not_blank_at_blanksEnd hoctet] at hisBlank
        cases hisBlank
      · rw [hregion] at hstarts
        cases hstarts
  rw [readLine, hrun, Outcome.andThen_done]

/-!
## The next line
-/

/-- Behind the newline the decision is about the rest behind all filler. -/
theorem readNextLine_iff (h : host.Over text) :
    (readNextLine host).stalled = false ∧
      ((readNextLine host).result = true <->
        StartsBehindFiller ((octets text).drop host.pos)) := by
  rcases exists_divides ((octets text).drop host.pos) with ⟨pieces, rest, hdivides⟩
  have hlater : StartsBehindFiller ((octets text).drop host.pos) <-> StartsStatement rest := by
    constructor
    · intro hstarts
      rcases hstarts with ⟨pieces', rest', hdivides', hstarts⟩
      rw [← (divides_unique hdivides hdivides').2]
      exact hstarts
    · intro hstarts
      exact ⟨pieces, rest, hdivides, hstarts⟩
  rw [hlater, readNextLine, skip_of_divides h hdivides]
  by_cases hslash : rest.head? = some '/'.toUInt8
  · rw [if_pos hslash, Outcome.andThen_done]
    refine ⟨rfl, iff_of_false Bool.noConfusion ?_⟩
    intro hstarts
    rcases List.head?_eq_some_iff.mp hslash with ⟨more, hmore⟩
    rw [hmore] at hstarts
    exact hstarts.1 ⟨'/', by decide, rfl⟩
  · rw [if_neg hslash, Outcome.andThen_done]
    rcases behind_of_divides h hdivides with ⟨hover, hrest⟩
    have hstarts := startsStatement_iff hover
    rw [hrest] at hstarts
    rw [if_pos rfl, Outcome.stalled_report, Outcome.result_report]
    exact ⟨stalled_startsStatement _, hstarts⟩

/-!
## The decision
-/

theorem mem_regions_iff {regions : List Nat} (hregions : host.regions = .ofList regions)
    (offset : Nat) : host.regions.contains offset = true <-> offset ∈ regions := by
  rw [hregions, RegionStarts.contains_ofList_iff]

theorem endsOnLine_of_boundary (h : host.Over text) {regions : List Nat}
    (hregions : host.regions = .ofList regions) (hstop : StopsLine host (octets text) stop)
    {why : Boundary} (hwhy : lineStop (host.jump stop) = .boundary why) :
    EndsOnLine (octets text) regions host.pos := by
  have hlen := le_length_of_stopsLine h hstop
  have hstarts : host.regions.contains stop = true ->
      EndsOnLine (octets text) regions host.pos := by
    intro hregion
    have hmem := (mem_regions_iff hregions stop).mp hregion
    exact Or.inr (Or.inr ⟨stop, hmem, hstop.le, hstop.le_blanksEnd⟩)
  rcases hstop.cause with heq | hregion
  · rcases cause_of_boundary hwhy with hend | hbrace | hregion
    · apply Or.inl
      rw [← heq, ← pos_jump host stop]
      exact (atEnd_iff (over_jump h hlen)).mp hend
    · apply Or.inr
      apply Or.inl
      rw [← heq]
      exact (lookahead_jump_iff h hlen (by decide)).mp hbrace
    · rw [atRegionStart_jump] at hregion
      exact hstarts hregion
  · exact hstarts hregion

theorem not_endsOnLine {regions : List Nat} (hregions : host.regions = .ofList regions)
    (hend : stop = blanksEnd (octets text) host.pos) {octet : UInt8}
    (hoctet : (octets text)[stop]? = some octet) (hbrace : octet ≠ '}'.toUInt8)
    (hnone : forall i, host.pos ≤ i -> i ≤ stop -> host.regions.contains i = false) :
    ¬ EndsOnLine (octets text) regions host.pos := by
  intro hends
  rw [EndsOnLine, ← hend] at hends
  rcases hends with hlength | hbrace' | hregion
  · exact absurd (lt_length_of_octet hoctet) (Nat.not_lt_of_le (Nat.le_of_eq hlength.symm))
  · rw [hoctet] at hbrace'
    exact hbrace (Option.some.inj hbrace')
  · rcases hregion with ⟨region, hmem, hfrom, hto⟩
    have hstarts := (mem_regions_iff hregions region).mpr hmem
    rw [hnone region hfrom hto] at hstarts
    cases hstarts

theorem endsStatement_of_newline {regions : List Nat} (hregions : host.regions = .ofList regions)
    (hend : stop = blanksEnd (octets text) host.pos)
    (hnewline : (octets text)[stop]? = some '\n'.toUInt8)
    (hnone : forall i, host.pos ≤ i -> i ≤ stop -> host.regions.contains i = false) :
    EndsStatement (octets text) regions host.pos <->
      StartsBehindFiller ((octets text).drop (stop + 1)) := by
  have hline := not_endsOnLine hregions hend hnewline (by decide) hnone
  rw [EndsStatement, ← hend]
  constructor
  · intro hends
    rcases hends with hends | hlater
    · exact absurd hends hline
    · exact hlater.2
  · intro hstarts
    exact Or.inr ⟨hnewline, hstarts⟩

theorem not_endsStatement_of_content {regions : List Nat}
    (hregions : host.regions = .ofList regions)
    (hend : stop = blanksEnd (octets text) host.pos) {octet : UInt8}
    (hoctet : (octets text)[stop]? = some octet) (hbrace : octet ≠ '}'.toUInt8)
    (hnewline : octet ≠ '\n'.toUInt8)
    (hnone : forall i, host.pos ≤ i -> i ≤ stop -> host.regions.contains i = false) :
    ¬ EndsStatement (octets text) regions host.pos := by
  intro hends
  rw [EndsStatement, ← hend] at hends
  rcases hends with hline | hlater
  · exact not_endsOnLine hregions hend hoctet hbrace hnone hline
  · rw [hoctet, Option.some.injEq] at hlater
    exact hnewline hlater.1

theorem semicolonScan_iff (h : host.Over text) {regions : List Nat}
    (hregions : host.regions = .ofList regions) :
    (Semicolon.scan host).stalled = false ∧
      ((Semicolon.scan host).result = true <->
        EndsStatement (octets text) regions host.pos) := by
  have hmarked : (Host.markEnd host).Over text := h
  have hpos : (Host.markEnd host).pos = host.pos := rfl
  have hregions' : (Host.markEnd host).regions = .ofList regions := hregions
  rw [Semicolon.scan, ← hpos]
  generalize Host.markEnd host = marked at hmarked hregions'
  rcases exists_stopsLine marked (octets text) with ⟨stop, hstop⟩
  have hlen := le_length_of_stopsLine hmarked hstop
  rw [readLine_eq_jump hmarked hstop, Outcome.andThen_done]
  cases hkind : lineStop (marked.jump stop) with
  | boundary why =>
      have hends := endsOnLine_of_boundary hmarked hregions' hstop hkind
      exact ⟨rfl, iff_of_true rfl (Or.inl hends)⟩
  | newline =>
      rcases lineStop_newline_iff.mp hkind with ⟨_, hregion, hnewline⟩
      rcases blanksEnd_of_no_region hstop hregion with ⟨hend, hnone⟩
      rw [lookahead_jump_iff hmarked hlen (by decide)] at hnewline
      have hnext := over_jump hmarked (lt_length_of_octet hnewline)
      have hlater := readNextLine_iff hnext
      rw [pos_jump] at hlater
      dsimp only
      rw [skip_jump_of_octet hmarked hstop.le hnewline (by decide),
        endsStatement_of_newline hregions' hend hnewline hnone]
      exact hlater
  | content =>
      rcases lineStop_content_iff.mp hkind with ⟨hnotEnd, hbrace, hregion, hnewline⟩
      rcases blanksEnd_of_no_region hstop hregion with ⟨hend, hnone⟩
      rcases Reader.exists_octet (over_jump hmarked hlen) hnotEnd with ⟨octet, hoctet⟩
      have hthere : (octets text)[stop]? = some octet := by
        rw [← pos_jump marked stop]
        exact hoctet
      rw [ne_eq, lookahead_jump_iff hmarked hlen (by decide), hthere,
        Option.some.injEq] at hbrace hnewline
      have hends := not_endsStatement_of_content hregions' hend hthere hbrace hnewline hnone
      exact ⟨rfl, iff_of_false Bool.noConfusion hends⟩

/-- The decision about a semicolon is exactly the rule for the end of a statement, over
what is kept of the source. -/
theorem scan_decides_statement_end (source : String) (regions : List Nat) (offset : Nat) :
    (Semicolon.scan (((ofString source).withRegions regions).seek offset)).stalled = false ∧
      ((Semicolon.scan (((ofString source).withRegions regions).seek offset)).result = true <->
        EndsStatement (octets (kept source)) regions
          (min offset (octets (kept source)).length)) := by
  rw [← pos_opened source regions offset]
  exact semicolonScan_iff (over_opened source regions offset) rfl

end TextHost
end StatementEnd
