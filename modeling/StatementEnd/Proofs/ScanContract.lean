import Mathlib.Data.Nat.Find
import StatementEnd.Proofs.CommentTokens
import StatementEnd.Proofs.Operations
import StatementEnd.Proofs.StatementEnds
import StatementEnd.Scanner

/-!
# What a scan promises

A scan looks at two bits of its candidates and at nothing else of them. With the first bit
set it decides about a semicolon: the end of the token is marked at once and its start never
falls behind that mark, so the token is empty however far the decision has to look ahead.
Without it, white space is skipped, and the second bit says whether a block comment is read
from there as a token of its own.
-/

namespace StatementEnd

open Text

namespace Filler

/-- A white space byte stands at an offset. -/
def SpaceAt (bytes : List UInt8) (offset : Nat) : Prop :=
  exists octet, bytes[offset]? = some octet ∧ IsSpaceOctet octet

/-- The first offset from an offset on where no white space stands. -/
structure SpacesEnd (bytes : List UInt8) (start stop : Nat) : Prop where
  le : start ≤ stop
  spaces : forall i, start ≤ i -> i < stop -> SpaceAt bytes i
  other : ¬ SpaceAt bytes stop

theorem exists_spacesEnd {bytes : List UInt8} {start : Nat} (hle : start ≤ bytes.length) :
    exists stop, SpacesEnd bytes start stop := by
  classical
  have hends : exists stop, start ≤ stop ∧ ¬ SpaceAt bytes stop := by
    refine ⟨bytes.length, hle, ?_⟩
    intro hspace
    rcases hspace with ⟨octet, hoctet, _⟩
    rw [List.getElem?_eq_none (Nat.le_refl _)] at hoctet
    cases hoctet
  have hfirst := Nat.find_spec hends
  refine ⟨Nat.find hends, hfirst.1, ?_, hfirst.2⟩
  intro i hfrom hto
  by_contra hother
  exact Nat.find_min hends hto ⟨hfrom, hother⟩

theorem le_length_of_spacesEnd {bytes : List UInt8} {start stop : Nat}
    (h : SpacesEnd bytes start stop) (hle : start ≤ bytes.length) : stop ≤ bytes.length := by
  rcases Nat.eq_or_lt_of_le h.le with heq | hlt
  · rw [← heq]
    exact hle
  · rcases h.spaces (stop - 1) (by omega) (by omega) with ⟨octet, hoctet, _⟩
    have hbefore := (List.getElem?_eq_some_iff.mp hoctet).1
    omega

theorem spacesEnd_unique {bytes : List UInt8} {start stop stop' : Nat}
    (h : SpacesEnd bytes start stop) (h' : SpacesEnd bytes start stop') : stop' = stop := by
  apply Nat.le_antisymm
  · apply Nat.le_of_not_lt
    intro hlt
    exact h.other (h'.spaces stop h.le hlt)
  · apply Nat.le_of_not_lt
    intro hlt
    exact h'.other (h.spaces stop' h'.le hlt)

end Filler

open Filler

namespace BlockComment

variable {bytes : List UInt8} {start stop : Nat}

/-- A slash-star in front, a star-slash at the end, and no byte in both. -/
structure Delimited (token : List UInt8) : Prop where
  opens : ['/'.toUInt8, '*'.toUInt8] <+: token
  closes : closing <:+ token
  length : 4 ≤ token.length

theorem delimited_of_closes (hopens : OpensAt bytes start) (hcloses : Closes bytes start stop) :
    Delimited ((bytes.drop start).take (stop + 2 - start)) := by
  have hle := hcloses.1.1
  have hend : stop + 1 < bytes.length := (List.getElem?_eq_some_iff.mp hcloses.2).1
  have hget : forall i, start ≤ i -> (bytes.drop start)[i - start]? = bytes[i]? := by
    intro i hfrom
    rw [List.getElem?_drop, Nat.add_sub_cancel' hfrom]
  constructor
  · apply List.prefix_iff_getElem?.mpr
    intro i hi
    match i, hi with
    | 0, _ => exact getElem?_token_iff.mpr ⟨by omega, hopens.1⟩
    | 1, _ => exact getElem?_token_iff.mpr ⟨by omega, hopens.2⟩
  · have hcount : stop + 2 - start = (stop - start) + 1 + 1 := by omega
    have hsecond : stop - start + 1 = stop + 1 - start := by omega
    refine ⟨(bytes.drop start).take (stop - start), ?_⟩
    rw [hcount, List.take_add_one, List.take_add_one, hget stop (by omega), hcloses.1.2.1,
      hsecond, hget (stop + 1) (by omega), hcloses.2, List.append_assoc]
    rfl
  · rw [List.length_take, List.length_drop]
    omega

end BlockComment

/-!
## The bits that are looked at
-/

/-- Raw candidate bits that a scan does not tell apart. -/
def SameChoice (bits bits' : UInt8) : Prop :=
  bits.toNat.testBit 0 = bits'.toNat.testBit 0 ∧
    (bits.toNat.testBit 0 = false -> bits.toNat.testBit 1 = bits'.toNat.testBit 1)

section Choice

variable {σ : Type} [LineHost σ]

theorem attempt_congr {bits bits' : UInt8} (hsame : SameChoice bits bits') (host : σ) :
    attempt (.ofBits bits) host = attempt (.ofBits bits') host := by
  have hallows : forall kind : TokenKind,
      bits.toNat.testBit kind.ordinal = bits'.toNat.testBit kind.ordinal ->
      (Candidates.ofBits bits).allows kind = (Candidates.ofBits bits').allows kind := by
    intro kind hbit
    rw [Candidates.allows_eq_testBit, Candidates.allows_eq_testBit, hbit]
  rw [attempt, attempt, ← hallows .semicolon hsame.1]
  cases hfirst : (Candidates.ofBits bits).allows .semicolon with
  | true => rfl
  | false =>
      rw [Candidates.allows_eq_testBit] at hfirst
      rw [hallows .blockComment (hsame.2 hfirst)]

theorem Scanner.scan_eq_attempt (scanner : Scanner) (candidates : Candidates) (host : σ) :
    scanner.scan candidates host =
      (attempt candidates host).report
        (closingEvent candidates (attempt candidates host).result) := rfl

theorem allows_of_attempt {candidates : Candidates} {host : σ} {kind : TokenKind}
    (h : (attempt candidates host).result = some kind) : candidates.allows kind = true := by
  cases hsemicolon : candidates.allows .semicolon with
  | true =>
      rw [attempt_of_semicolon host hsemicolon, Outcome.result_map] at h
      split at h
      · cases h
        exact hsemicolon
      · cases h
  | false =>
      cases hcomment : candidates.allows .blockComment with
      | true =>
          rw [attempt_of_comment host hsemicolon hcomment] at h
          simp only [Outcome.andThen, Outcome.result_map] at h
          split at h
          · cases h
            exact hcomment
          · cases h
      | false =>
          rw [attempt_of_neither host hsemicolon hcomment] at h
          cases h

end Choice

namespace TextHost

open BlockComment Semicolon

variable {host after : TextHost} {text : String} {candidates : Candidates} {offset stop : Nat}

/-!
## An empty token

Skipping moves the start of the token with the position, so it never comes before the mark.
-/

theorem stepwise (text : String) : Stepwise fun host : TextHost => host.Over text where
  lively := lively text
  line := by
    intro host h
    have hover : (Host.skip host).Over text := Reader.over_advance h
    rw [skipLine_eq_stepToLineEnd hover rfl]
    exact (lively text).skips_stepToLineEnd hover

/-- The end of the token was marked at an offset, and nothing lies before it. -/
structure MarkedAt (host : TextHost) (offset : Nat) : Prop where
  stop_eq : host.bounds.stop? = some offset
  le_start : offset ≤ host.bounds.start
  le_pos : offset ≤ host.pos

theorem span_of_markedAt (h : host.MarkedAt offset) :
    host.span = { start := offset, stop := offset } := by
  rw [span, TokenBounds.span, h.stop_eq, Option.getD_some, Nat.min_eq_right h.le_start]

theorem markedAt_markEnd (hfresh : host.bounds = .fresh host.pos) :
    (Host.markEnd host).MarkedAt host.pos where
  stop_eq := rfl
  le_start := by
    show host.pos ≤ host.bounds.start
    rw [hfresh]
    exact Nat.le_refl _
  le_pos := Nat.le_refl _

theorem markedAt_of_skips (h : host.Over text) (hmarked : host.MarkedAt offset) {count : Nat}
    (hskips : Performs host (List.replicate count .skip) after) : after.MarkedAt offset := by
  induction count generalizing host with
  | zero =>
      cases hskips
      exact hmarked
  | succ count ih =>
      cases hskips with
      | cons hmoves hrest =>
          have hlt := Reader.pos_lt_advance h (atEnd_of_movable h (hmoves rfl))
          have hle := Nat.le_trans hmarked.le_pos (Nat.le_of_lt hlt)
          exact ih ((lively text).skip h) ⟨hmarked.stop_eq, hle, hle⟩ hrest

theorem span_of_semicolon (h : host.Over text) (hfresh : host.bounds = .fresh host.pos)
    (hsemicolon : candidates.allows .semicolon = true) :
    (attempt candidates host).host.span = { start := host.pos, stop := host.pos } := by
  rcases (stepwise text).attempt_semicolon h hsemicolon with ⟨count, hperforms⟩
  cases hperforms with
  | cons _ hskips =>
      have hmarked : (Host.markEnd host).Over text := h
      exact span_of_markedAt (markedAt_of_skips hmarked (markedAt_markEnd hfresh) hskips)

/-!
## A comment behind white space
-/

theorem skipSpaces_eq_jump (h : host.Over text) (hstop : SpacesEnd (octets text) host.pos stop) :
    skipSpaces host = .done (host.jump stop) () := by
  have hlen := le_length_of_spacesEnd hstop h.pos_le
  have hland : stop = host.pos ∨ CharBoundary text stop := by
    rcases Nat.eq_or_lt_of_le hstop.le with heq | hlt
    · exact Or.inl heq.symm
    · rcases hstop.spaces (stop - 1) (by omega) (by omega) with ⟨octet, hoctet, hspace⟩
      apply Or.inr
      exact boundary_of_ascii_before (by omega) hoctet (ascii_of_isSpaceOctet hspace)
  have hthere : forall i, i ≤ (octets text).length ->
      (isSpace (Host.lookahead (host.jump i)) = true <-> SpaceAt (octets text) i) := by
    intro i hi
    rw [isSpace_lookahead_iff (over_jump h hi), pos_jump, SpaceAt]
  apply skipWhile_eq_jump h hstop.le hlen hland
  · intro i hfrom hto
    exact (hthere i (by omega)).mpr (hstop.spaces i hfrom hto)
  · apply Bool.eq_false_iff.mpr
    intro hspace
    exact hstop.other ((hthere stop hlen).mp hspace)

theorem skipSpaces_eq_seek (h : host.Over text) (hfresh : host.bounds = .fresh host.pos)
    (hstop : SpacesEnd (octets text) host.pos stop) :
    skipSpaces host = .done (host.seek stop) () := by
  rw [skipSpaces_eq_jump h hstop,
    jump_eq_seek h hfresh (le_length_of_spacesEnd hstop h.pos_le)]

/-- The token of a comment that was read from a fresh start. -/
theorem token_of_closed (h : host.Over text) (hfresh : host.bounds = .fresh host.pos)
    (hclosed : (BlockComment.scan host).result = true) :
    (BlockComment.scan host).host.span =
        { start := host.pos, stop := (BlockComment.scan host).host.pos } ∧
      Delimited (octets (BlockComment.scan host).host.tokenText) := by
  rcases exists_closesFirst_of_scan h hclosed with ⟨hopens, stop, hfirst⟩
  rw [tokenText_of_closesFirst h hfresh hopens hfirst]
  refine ⟨?_, delimited_of_closes hopens hfirst.1⟩
  rcases scan_of_closesFirst h hopens hfirst with ⟨depth, hscan⟩
  have hle : host.pos ≤ stop + 2 := by
    have hfrom := hfirst.1.1.1
    omega
  rw [hscan]
  show (host.bounds.stopAt (stop + 2)).span (stop + 2) = _
  rw [hfresh, TokenBounds.span_stopAt]
  show Span.mk (min host.pos (stop + 2)) (stop + 2) = _
  rw [Nat.min_eq_left hle]
  rfl

/-!
## Looking far ahead

White space up to an offset is read to its end, whether the text ends there or a word follows.
-/

/-- A text that is blank up to an offset and then goes on. -/
def blankTo (offset : Nat) (more : List Char) : String :=
  String.ofList (List.replicate offset ' ' ++ more)

theorem octets_blankTo (offset : Nat) (more : List Char) :
    octets (blankTo offset more) = List.replicate offset ' '.toUInt8 ++ encode more := by
  have hspaces : encode (List.replicate offset ' ') = List.replicate offset ' '.toUInt8 := by
    induction offset with
    | zero => rfl
    | succ offset ih =>
        rw [List.replicate_succ, encode_cons, ih]
        rfl
  rw [octets, blankTo, String.toList_ofList, encode_append, hspaces]

theorem length_blankTo (offset : Nat) (more : List Char) :
    (octets (blankTo offset more)).length = offset + (encode more).length := by
  rw [octets_blankTo, List.length_append, List.length_replicate]

theorem blanksEnd_blankTo {start : Nat} (hle : start ≤ offset) {more : List Char}
    (hmore : (encode more).takeWhile isBlankOctet = []) :
    blanksEnd (octets (blankTo offset more)) start = offset := by
  have hblank : isBlankOctet ' '.toUInt8 = true := by decide
  have hlen : start ≤ (List.replicate offset ' '.toUInt8).length := by
    rw [List.length_replicate]
    exact hle
  rw [octets_blankTo, blanksEnd, List.drop_append_of_le_length hlen, List.drop_replicate,
    List.takeWhile_append_of_pos, hmore, List.append_nil, List.length_replicate,
    Nat.add_sub_cancel' hle]
  intro octet hmem
  rw [List.eq_of_mem_replicate hmem]
  exact hblank

theorem readLine_blankTo {start : Nat} (hle : start ≤ offset) {more : List Char}
    (hfits : offset + (encode more).length < UInt32.size)
    (hmore : (encode more).takeWhile isBlankOctet = []) :
    exists line : TextHost, line.Over (blankTo offset more) ∧ line.pos = offset ∧
      line.regions = .ofList [] ∧
      readLine (Host.markEnd (opened (blankTo offset more) [] start)) =
        .done line (lineStop line) := by
  rw [← length_blankTo, length_octets] at hfits
  have hover : (Host.markEnd (opened (blankTo offset more) [] start)).Over
      (blankTo offset more) := over_opened_of_fits hfits [] start
  have hlen : offset ≤ (octets (blankTo offset more)).length := by
    rw [length_blankTo]
    exact Nat.le_add_right _ _
  have hpos : (Host.markEnd (opened (blankTo offset more) [] start)).pos = start := by
    show (opened (blankTo offset more) [] start).pos = start
    rw [pos_opened, kept_of_fits hfits]
    exact Nat.min_eq_left (Nat.le_trans hle hlen)
  have hregions : (Host.markEnd (opened (blankTo offset more) [] start)).regions = .ofList [] :=
    rfl
  generalize Host.markEnd (opened (blankTo offset more) [] start) = marked at hover hpos hregions
  have hends := @blanksEnd_blankTo _ _ hle _ hmore
  rw [← hpos] at hends
  have hstop : StopsLine marked (octets (blankTo offset more)) offset := by
    refine ⟨by omega, Nat.le_of_eq hends.symm, ?_, Or.inl hends.symm⟩
    intro i _ _
    rw [hregions]
    exact RegionStarts.contains_ofList_nil i
  refine ⟨marked.jump offset, over_jump hover hlen, pos_jump _ _, ?_, readLine_eq_jump hover hstop⟩
  rw [regions_jump, hregions]

theorem scan_blankTo_end {start : Nat} (hle : start ≤ offset) (hfits : offset < UInt32.size) :
    (Semicolon.scan (opened (blankTo offset []) [] start)).result = true ∧
      (Semicolon.scan (opened (blankTo offset []) [] start)).host.pos = offset := by
  rcases @readLine_blankTo _ _ hle [] hfits rfl with ⟨line, hover, hpos, _, hrun⟩
  have hend : Host.atEnd line = true := by
    apply (atEnd_iff hover).mpr
    rw [hpos, length_blankTo]
    rfl
  have hstop : lineStop line = .boundary .endOfInput := if_pos hend
  rw [Semicolon.scan, hrun, Outcome.andThen_done, hstop]
  exact ⟨rfl, hpos⟩

theorem scan_blankTo_word {start : Nat} (hle : start ≤ offset)
    (hfits : offset + 1 < UInt32.size) :
    (Semicolon.scan (opened (blankTo offset ['x']) [] start)).result = false ∧
      (Semicolon.scan (opened (blankTo offset ['x']) [] start)).host.pos = offset := by
  rcases @readLine_blankTo _ _ hle ['x'] hfits (by decide) with ⟨line, hover, hpos, hregions, hrun⟩
  have hoctet : (octets (blankTo offset ['x']))[offset]? = some 'x'.toUInt8 := by
    have hlen := @List.length_replicate _ offset ' '.toUInt8
    rw [octets_blankTo, List.getElem?_append_right (Nat.le_of_eq hlen), hlen, Nat.sub_self]
    rfl
  have hword : Host.lookahead line = 'x' := by
    rw [lookahead_eq_iff hover (by decide), hpos]
    exact hoctet
  have hregion : Host.atRegionStart line = false := by
    show line.regions.contains line.pos = false
    rw [hregions]
    exact RegionStarts.contains_ofList_nil _
  have hend := atEnd_of_movable hover (Host.movable_of_lookahead hword (by decide))
  have hstop : lineStop line = .content := by
    rw [lineStop_content_iff, hword]
    exact ⟨hend, by decide, hregion, by decide⟩
  rw [Semicolon.scan, hrun, Outcome.andThen_done, hstop]
  exact ⟨rfl, hpos⟩

/-- The decision can go either way at any distance from where it is asked for, as long as
there is room for a character behind it. -/
theorem exists_far_scan {start distance : Nat} (hfits : start + distance + 1 < UInt32.size)
    (ends : Bool) :
    exists text, (Semicolon.scan (opened text [] start)).result = ends ∧
      (Semicolon.scan (opened text [] start)).host.pos = start + distance := by
  cases ends with
  | true =>
      exact ⟨_, scan_blankTo_end (Nat.le_add_right start distance) (Nat.lt_of_succ_lt hfits)⟩
  | false => exact ⟨_, scan_blankTo_word (Nat.le_add_right start distance) hfits⟩

/-!
## The contract
-/

/-- What a scan with raw candidate bits leaves behind at the position of a host. -/
structure ScanContract (text : String) (host : TextHost) (bits : UInt8)
    (outcome : Outcome TextHost (Option TokenKind)) : Prop where
  settled : outcome.stalled = false
  allowed : forall kind, outcome.result = some kind ->
    (Candidates.ofBits bits).allows kind = true
  /-- A semicolon is produced or nothing, and either way the token is empty. -/
  semicolon : bits.toNat.testBit 0 = true ->
    (outcome.result = some .semicolon ∨ outcome.result = none) ∧
      outcome.host.span = { start := host.pos, stop := host.pos }
  /-- Only white space is skipped. -/
  nothing : bits.toNat.testBit 0 = false -> bits.toNat.testBit 1 = false ->
    outcome.result = none ∧ SpacesEnd (octets text) host.pos outcome.host.pos
  /-- A comment is read behind white space, and its token starts there. -/
  comment : bits.toNat.testBit 0 = false -> bits.toNat.testBit 1 = true ->
    exists start, SpacesEnd (octets text) host.pos start ∧
      (outcome.result = some .blockComment <->
        (BlockComment.scan (host.seek start)).result = true) ∧
      (outcome.result = some .blockComment ∨ outcome.result = none) ∧
      outcome.host = (BlockComment.scan (host.seek start)).host ∧
      (outcome.result = some .blockComment ->
        outcome.host.span = { start := start, stop := outcome.host.pos } ∧
          Delimited (octets outcome.host.tokenText))

theorem attempt_keeps_contract (h : host.Over text) (hfresh : host.bounds = .fresh host.pos)
    (bits : UInt8) : ScanContract text host bits (attempt (.ofBits bits) host) where
  settled := ((lively text).lockstep.attempt ⟨h, rfl⟩ _).settled.1
  allowed _ hproduced := allows_of_attempt hproduced
  semicolon := by
    intro hfirst
    have hallows := (Candidates.allows_eq_testBit bits .semicolon).trans hfirst
    refine ⟨?_, span_of_semicolon h hfresh hallows⟩
    rw [attempt_of_semicolon host hallows, Outcome.result_map]
    cases (Semicolon.scan host).result with
    | true => exact Or.inl rfl
    | false => exact Or.inr rfl
  nothing := by
    intro hfirst hsecond
    have hsemicolon := (Candidates.allows_eq_testBit bits .semicolon).trans hfirst
    have hcomment := (Candidates.allows_eq_testBit bits .blockComment).trans hsecond
    rcases exists_spacesEnd h.pos_le with ⟨start, hstart⟩
    rw [attempt_of_neither host hsemicolon hcomment, skipSpaces_eq_jump h hstart,
      Outcome.andThen_done]
    refine ⟨rfl, ?_⟩
    rw [Outcome.host_done, pos_jump]
    exact hstart
  comment := by
    intro hfirst hsecond
    have hsemicolon := (Candidates.allows_eq_testBit bits .semicolon).trans hfirst
    have hcomment := (Candidates.allows_eq_testBit bits .blockComment).trans hsecond
    rcases exists_spacesEnd h.pos_le with ⟨start, hstart⟩
    refine ⟨start, hstart, ?_⟩
    have hover : (host.seek start).Over text := Reader.over_seek h start
    have hpos : (host.seek start).pos = start := by
      rw [pos_seek, Reader.length_of_over h]
      exact Nat.min_eq_left (le_length_of_spacesEnd hstart h.pos_le)
    have htoken := token_of_closed hover (bounds_seek host start)
    rw [attempt_of_comment host hsemicolon hcomment, skipSpaces_eq_seek h hfresh hstart,
      Outcome.andThen_done]
    rw [hpos] at htoken
    generalize BlockComment.scan (host.seek start) = outcome at htoken
    rcases outcome with ⟨closed, final, events, stalled⟩
    cases closed with
    | true => exact ⟨iff_of_true rfl rfl, Or.inl rfl, rfl, fun _ => htoken rfl⟩
    | false =>
        refine ⟨iff_of_false ?_ Bool.noConfusion, Or.inr rfl, rfl, ?_⟩
        · intro hproduced
          cases hproduced
        · intro hproduced
          cases hproduced

/-- Every scan keeps the contract, tells candidates apart by two bits at most, and can look
any distance ahead for a semicolon that a source has room for. -/
theorem scan_keeps_contract (scanner : Scanner) :
    (forall (source : String) (regions : List Nat) (offset : Nat) (bits : UInt8),
      ScanContract (kept source) (opened source regions offset) bits
        (scanner.scan (.ofBits bits) (opened source regions offset))) ∧
    (forall (source : String) (regions : List Nat) (offset : Nat) (bits bits' : UInt8),
      SameChoice bits bits' ->
      (scanner.scan (.ofBits bits) (opened source regions offset)).result =
          (scanner.scan (.ofBits bits') (opened source regions offset)).result ∧
        (scanner.scan (.ofBits bits) (opened source regions offset)).host =
          (scanner.scan (.ofBits bits') (opened source regions offset)).host) ∧
    (forall (bits : UInt8) (offset distance : Nat) (produced : Bool),
      bits.toNat.testBit 0 = true -> offset + distance + 1 < UInt32.size ->
      exists source,
        (scanner.scan (.ofBits bits) (opened source [] offset)).result =
            (if produced then some .semicolon else none) ∧
          (scanner.scan (.ofBits bits) (opened source [] offset)).host.pos =
            offset + distance) := by
  refine ⟨?_, ?_, ?_⟩
  · intro source regions offset bits
    have hkept := attempt_keeps_contract (over_opened source regions offset) rfl bits
    exact ⟨hkept.settled, hkept.allowed, hkept.semicolon, hkept.nothing, hkept.comment⟩
  · intro source regions offset bits bits' hsame
    rw [Scanner.scan_eq_attempt, Scanner.scan_eq_attempt, attempt_congr hsame]
    exact ⟨rfl, rfl⟩
  · intro bits offset distance produced hfirst hfits
    rcases exists_far_scan hfits produced with ⟨source, hresult, hpos⟩
    have hallows := (Candidates.allows_eq_testBit bits .semicolon).trans hfirst
    refine ⟨source, ?_⟩
    rw [Scanner.scan_eq_attempt, attempt_of_semicolon _ hallows, ← hresult, ← hpos]
    exact ⟨rfl, rfl⟩

/-- Both candidates, and then the comment alone. -/
example :
    (Scanner.fresh.scan (.ofBits 3) (opened " \n /* a */b" [] 0)).host.span = ⟨0, 0⟩ ∧
      (Scanner.fresh.scan (.ofBits 2) (opened " \n /* a */b" [] 0)).host.span = ⟨3, 10⟩ := by
  decide +kernel

end TextHost
end StatementEnd
