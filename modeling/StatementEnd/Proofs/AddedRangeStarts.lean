import StatementEnd.Proofs.DecisionStop
import StatementEnd.Proofs.ScanContract
import StatementEnd.Routine

/-!
# More range starts

Range starts are looked at on the first line of a decision about a semicolon and nowhere
else. A start that is added can only end the statement there, and earlier: it never takes
a semicolon away, and one that does not lie among the blanks at the position changes nothing.
What reads a comment, skips filler or scans for a comment alone does not see range starts
at all.
-/

namespace StatementEnd

open Text

namespace Semicolon

variable {bytes : List UInt8} {regions more : List Nat} {start stop stop' : Nat}

/-- Of the range starts that matter at an offset, a list has all that another one has. -/
def Covers (bytes : List UInt8) (start : Nat) (more regions : List Nat) : Prop :=
  forall region, region ∈ regions -> start ≤ region -> region ≤ blanksEnd bytes start ->
    region ∈ more

theorem covers_of_subset (hmore : forall region, region ∈ regions -> region ∈ more)
    (bytes : List UInt8) (start : Nat) : Covers bytes start more regions :=
  fun region hmem _ _ => hmore region hmem

/-- No line is read past the end of its blanks. -/
theorem firstStop_le_blanksEnd (h : FirstStop bytes regions start stop) :
    stop ≤ blanksEnd bytes start := by
  apply Nat.le_of_not_lt
  intro hlt
  rcases (h.passed _ (Nat.le_add_right _ _) hlt).1 with ⟨octet, hoctet, hblank⟩
  rw [not_blank_at_blanksEnd hoctet] at hblank
  cases hblank

theorem endsStatement_of_covers (hcovers : Covers bytes start more regions)
    (h : EndsStatement bytes regions start) : EndsStatement bytes more start := by
  rcases h with hline | hlater
  · apply Or.inl
    rcases hline with hend | hbrace | hregion
    · exact Or.inl hend
    · exact Or.inr (Or.inl hbrace)
    · rcases hregion with ⟨region, hmem, hfrom, hto⟩
      exact Or.inr (Or.inr ⟨region, hcovers region hmem hfrom hto, hfrom, hto⟩)
  · exact Or.inr hlater

/-- A newline is where the reading of a line stops, if no range start stops it before. -/
theorem newline_le_of_firstStop (h : FirstStop bytes regions start stop)
    (hnewline : bytes[stop']? = some '\n'.toUInt8) (hfrom : start ≤ stop') : stop ≤ stop' := by
  apply Nat.le_of_not_lt
  intro hlt
  exact not_blankAt_of_octet hnewline (by decide) (h.passed stop' hfrom hlt).1

theorem readsTo_le (hcovers : Covers bytes start more regions)
    (h : ReadsTo bytes regions start stop) (h' : ReadsTo bytes more start stop') :
    stop' ≤ stop := by
  have hline : forall {line line' : Nat}, FirstStop bytes regions start line ->
      FirstStop bytes more start line' -> line' ≤ line := by
    intro line line' hfirst hfirst'
    apply firstStop_le hfirst hfirst'
    intro hmem
    exact hcovers line hmem hfirst.le (firstStop_le_blanksEnd hfirst)
  cases h with
  | line hfirst hends =>
      cases h' with
      | line hfirst' _ => exact hline hfirst hfirst'
      | nextLine hfirst' hnewline hnot _ =>
          have heq := Nat.le_antisymm (hline hfirst hfirst')
            (newline_le_of_firstStop hfirst hnewline hfirst'.le)
          rw [heq] at hnewline hnot
          have hmem := hends hnewline
          exact absurd (hcovers _ hmem hfirst.le (firstStop_le_blanksEnd hfirst)) hnot
  | nextLine hfirst hnewline hnot hnext =>
      cases h' with
      | line hfirst' _ =>
          have hle := hline hfirst hfirst'
          omega
      | nextLine hfirst' hnewline' _ hnext' =>
          have heq := Nat.le_antisymm (hline hfirst hfirst')
            (newline_le_of_firstStop hfirst hnewline' hfirst'.le)
          rw [heq] at hnext' ⊢
          rw [readsNextLine_unique hnext hnext']

/-- A list that adds no start among the blanks covers no less. -/
theorem covers_of_nothing_new
    (hnone : forall region, region ∈ more -> region ∉ regions -> start ≤ region ->
      blanksEnd bytes start < region) : Covers bytes start regions more := by
  intro region hmem hfrom hto
  by_contra hnew
  exact Nat.not_lt_of_le hto (hnone region hmem hnew hfrom)

end Semicolon

/-- The routines that decide about a semicolon. -/
def Routine.Decides : Routine -> Prop
  | .semicolon => True
  | .scan candidates => candidates.bits.toNat.testBit 0 = true
  | .comment => False
  | .filler => False

namespace TextHost

open BlockComment Filler Semicolon

variable {host : TextHost} {text : String}

/-!
## Without a look at range starts
-/

theorem jump_withRegions (host : TextHost) (positions : List Nat) (stop : Nat) :
    (host.withRegions positions).jump stop = (host.jump stop).withRegions positions := by
  by_cases heq : stop = host.pos
  · rw [heq, jump_pos]
    exact jump_pos (host.withRegions positions)
  · rw [jump_of_ne heq]
    exact jump_of_ne heq

/-- Two outcomes with the same result on hosts that differ in their range starts alone. -/
structure SameBeside {α : Type} (positions : List Nat) (s t : Outcome TextHost α) : Prop where
  result : t.result = s.result
  host : t.host = s.host.withRegions positions

theorem skipFiller_beside (h : host.Over text) (positions : List Nat) :
    SameBeside positions (Filler.skip host) (Filler.skip (host.withRegions positions)) := by
  have hother : (host.withRegions positions).Over text := h
  rcases exists_divides ((octets text).drop host.pos) with ⟨pieces, rest, hdivides⟩
  rw [skip_of_divides h hdivides, skip_of_divides hother hdivides]
  split
  · exact ⟨rfl, jump_withRegions host positions _⟩
  · exact ⟨rfl, jump_withRegions host positions _⟩

theorem skipSpaces_beside (h : host.Over text) (positions : List Nat) :
    exists start : TextHost, start.Over text ∧ skipSpaces host = .done start () ∧
      skipSpaces (host.withRegions positions) = .done (start.withRegions positions) () := by
  have hother : (host.withRegions positions).Over text := h
  rcases exists_spacesEnd h.pos_le with ⟨stop, hstop⟩
  refine ⟨host.jump stop, over_jump h (le_length_of_spacesEnd hstop h.pos_le),
    skipSpaces_eq_jump h hstop, ?_⟩
  rw [skipSpaces_eq_jump hother hstop, jump_withRegions]

theorem scanComment_beside (h : host.Over text) (positions : List Nat) :
    SameBeside positions (BlockComment.scan host)
      (BlockComment.scan (host.withRegions positions)) := by
  have hother : (host.withRegions positions).Over text := h
  by_cases hslash : (octets text)[host.pos]? = some '/'.toUInt8
  · by_cases hstar : (octets text)[host.pos + 1]? = some '*'.toUInt8
    · have hreads := scan_of_opensAt h ⟨hslash, hstar⟩
      have hreads' := scan_of_opensAt hother ⟨hslash, hstar⟩
      generalize BlockComment.scan host = outcome at hreads
      generalize BlockComment.scan (host.withRegions positions) = outcome' at hreads'
      cases hreads with
      | closed hfirst =>
          cases hreads' with
          | closed hfirst' =>
              rw [closesFirst_unique hfirst hfirst']
              exact ⟨rfl, rfl⟩
          | unterminated hnone => exact absurd hfirst.1 (hnone _)
      | unterminated hnone =>
          cases hreads' with
          | closed hfirst' => exact absurd hfirst'.1 (hnone _)
          | unterminated _ => exact ⟨rfl, rfl⟩
    · rw [scan_of_lone_slash h hslash hstar, scan_of_lone_slash hother hslash hstar]
      exact ⟨rfl, rfl⟩
  · rw [scan_of_not_slash h hslash, scan_of_not_slash hother hslash]
    exact ⟨rfl, rfl⟩

theorem attempt_beside (h : host.Over text) (positions : List Nat) {candidates : Candidates}
    (hsemicolon : candidates.allows .semicolon = false) :
    SameBeside positions (attempt candidates host)
      (attempt candidates (host.withRegions positions)) := by
  rcases skipSpaces_beside h positions with ⟨start, hstart, hrun, hrun'⟩
  cases hcomment : candidates.allows .blockComment with
  | true =>
      have hscan := scanComment_beside hstart positions
      rw [attempt_of_comment _ hsemicolon hcomment, attempt_of_comment _ hsemicolon hcomment,
        hrun, hrun', Outcome.andThen_done, Outcome.andThen_done]
      refine ⟨?_, hscan.host⟩
      rw [Outcome.result_map, Outcome.result_map, hscan.result]
  | false =>
      rw [attempt_of_neither _ hsemicolon hcomment, attempt_of_neither _ hsemicolon hcomment,
        hrun, hrun', Outcome.andThen_done, Outcome.andThen_done]
      exact ⟨rfl, rfl⟩

/-- What does not decide about a semicolon does the same with any range starts. -/
theorem run_beside (h : host.Over text) (positions : List Nat) {routine : Routine}
    (hroutine : ¬ routine.Decides) :
    SameBeside positions (routine.run host) (routine.run (host.withRegions positions)) := by
  cases routine with
  | semicolon => exact absurd trivial hroutine
  | scan candidates =>
      have hsemicolon : candidates.allows .semicolon = false :=
        (Candidates.allows_eq_testBit candidates.bits .semicolon).trans
          (Bool.eq_false_iff.mpr hroutine)
      have htried := attempt_beside h positions hsemicolon
      exact ⟨congrArg Verdict.token htried.result, htried.host⟩
  | comment =>
      have hscan := scanComment_beside h positions
      exact ⟨congrArg Verdict.flag hscan.result, hscan.host⟩
  | filler =>
      have hskip := skipFiller_beside h positions
      exact ⟨congrArg Verdict.flag hskip.result, hskip.host⟩

/-!
## With more range starts
-/

/-- Two runs came to an end with the same result, position and stretch of the token. -/
structure SameToken (s t : Outcome TextHost Verdict) : Prop where
  settled : s.stalled = false ∧ t.stalled = false
  result : s.result = t.result
  pos : s.host.pos = t.host.pos
  span : s.host.span = t.host.span

theorem sameToken_of_not_decides (source : String) (offset : Nat) (regions others : List Nat)
    {routine : Routine} (hroutine : ¬ routine.Decides) :
    SameToken (routine.run (opened source regions offset))
      (routine.run (opened source others offset)) := by
  have hover := over_opened source regions offset
  have hbeside := run_beside hover others hroutine
  have hother : (opened source regions offset).withRegions others = opened source others offset :=
    rfl
  rw [hother] at hbeside
  refine ⟨⟨?_, ?_⟩, hbeside.result.symm, ?_, ?_⟩
  · exact (lively (kept source)).settled_run hover routine
  · exact (lively (kept source)).settled_run (over_opened source others offset) routine
  · rw [hbeside.host]
    rfl
  · rw [hbeside.host]
    rfl

/-- What a decision does with range starts that another one covers. -/
theorem decides_no_later (source : String) (offset : Nat) {regions more : List Nat}
    (hcovers : Covers (octets (kept source)) (opened source regions offset).pos more regions) :
    ((Semicolon.scan (opened source regions offset)).result = true ->
      (Semicolon.scan (opened source more offset)).result = true) ∧
    (Semicolon.scan (opened source more offset)).host.pos ≤
      (Semicolon.scan (opened source regions offset)).host.pos := by
  have hover := over_opened source regions offset
  have hover' := over_opened source more offset
  have hsame : (opened source more offset).pos = (opened source regions offset).pos := rfl
  constructor
  · rw [(semicolonScan_iff hover rfl).2, (semicolonScan_iff hover' rfl).2, hsame]
    exact endsStatement_of_covers hcovers
  · rcases semicolonScan_eq_jump hover rfl with ⟨stop, hreads, hrun⟩
    rcases semicolonScan_eq_jump hover' rfl with ⟨stop', hreads', hrun'⟩
    rw [hsame] at hreads'
    rw [hrun, hrun', pos_jump, pos_jump]
    exact readsTo_le hcovers hreads hreads'

/-- Added range starts never take a semicolon away and never make a decision read further.
They make a difference only if one of them lies among the kept blanks at the position, and
they make none to what does not decide about a semicolon. -/
theorem added_range_starts_only_end_earlier (source : String) (offset : Nat)
    {regions more : List Nat} (hmore : forall region, region ∈ regions -> region ∈ more) :
    ((Semicolon.scan (opened source regions offset)).stalled = false ∧
      (Semicolon.scan (opened source more offset)).stalled = false) ∧
    ((Semicolon.scan (opened source regions offset)).result = true ->
      (Semicolon.scan (opened source more offset)).result = true) ∧
    (Semicolon.scan (opened source more offset)).host.pos ≤
      (Semicolon.scan (opened source regions offset)).host.pos ∧
    ((Semicolon.scan (opened source regions offset)).result ≠
          (Semicolon.scan (opened source more offset)).result ∨
        (Semicolon.scan (opened source regions offset)).host.pos ≠
          (Semicolon.scan (opened source more offset)).host.pos ->
      exists region, region ∈ more ∧ region ∉ regions ∧
        min offset (octets (kept source)).length ≤ region ∧
        region ≤ blanksEnd (octets (kept source)) (min offset (octets (kept source)).length)) ∧
    forall (those others : List Nat) (routine : Routine), ¬ routine.Decides ->
      SameToken (routine.run (opened source those offset))
        (routine.run (opened source others offset)) := by
  have hsettled := (semicolonScan_iff (over_opened source regions offset) rfl).1
  have hsettled' := (semicolonScan_iff (over_opened source more offset) rfl).1
  rcases decides_no_later source offset (covers_of_subset hmore _ _) with ⟨hresult, hpos⟩
  refine ⟨⟨hsettled, hsettled'⟩, hresult, hpos, ?_,
    fun those others _ => sameToken_of_not_decides source offset those others⟩
  intro hdiffer
  by_contra hnone
  rw [← pos_opened source regions offset] at hnone
  have hcovers : Covers (octets (kept source)) (opened source more offset).pos regions more := by
    apply covers_of_nothing_new
    intro region hmem hnew hfrom
    apply Nat.lt_of_not_le
    intro hto
    exact hnone ⟨region, hmem, hnew, hfrom, hto⟩
  rcases decides_no_later source offset hcovers with ⟨hresult', hpos'⟩
  rcases hdiffer with hdiffer | hdiffer
  · exact hdiffer (Bool.eq_iff_iff.mpr ⟨hresult, hresult'⟩)
  · exact hdiffer (Nat.le_antisymm hpos' hpos)

theorem added_range_starts_only_end_earlier_on_blank :
    (forall region : Nat, region ∈ [] -> region ∈ [2]) ∧
      (Semicolon.scan (opened "a  b" [] 1)).result = false ∧
      (Semicolon.scan (opened "a  b" [2] 1)).result = true ∧
      (Semicolon.scan (opened "a  b" [2] 1)).host.pos ≤
        (Semicolon.scan (opened "a  b" [] 1)).host.pos ∧
      exists region, region ∈ [2] ∧ region ∉ ([] : List Nat) ∧ 1 ≤ region ∧ region ≤ 3 := by
  have hmore : forall region : Nat, region ∈ [] -> region ∈ [2] := by simp
  have hbefore : (Semicolon.scan (opened "a  b" [] 1)).result = false := by decide +kernel
  have hafter : (Semicolon.scan (opened "a  b" [2] 1)).result = true := by decide +kernel
  have hkept : kept "a  b" = "a  b" := kept_of_fits (by decide +kernel)
  have hstart : min 1 (octets "a  b").length = 1 := by decide +kernel
  have hend : blanksEnd (octets "a  b") 1 = 3 := by decide +kernel
  rcases added_range_starts_only_end_earlier "a  b" 1 hmore with ⟨_, _, hpos, hnew, _⟩
  rw [hbefore, hafter, hkept, hstart, hend] at hnew
  exact ⟨hmore, hbefore, hafter, hpos, hnew (Or.inl Bool.false_ne_true)⟩

end TextHost
end StatementEnd
