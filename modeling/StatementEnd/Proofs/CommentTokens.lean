import StatementEnd.Proofs.CommentRounds
import StatementEnd.Proofs.Walk

/-!
# Block comments read as tokens

A block comment that is read as a token ends with the first star-slash whose star is
not the star of an inner opening. The reader decides this on one pass with a flag; the
invariant ties the flag to the bytes before the position.
-/

namespace StatementEnd

open Text

namespace BlockComment

variable {bytes : List UInt8} {start offset stop : Nat} {afterStar : Bool}

/-- A slash-star stands at an offset. -/
def OpensAt (bytes : List UInt8) (start : Nat) : Prop :=
  bytes[start]? = some '/'.toUInt8 ∧ bytes[start + 1]? = some '*'.toUInt8

/-- A star behind the opening that does not follow a slash. -/
def FreeStar (bytes : List UInt8) (start offset : Nat) : Prop :=
  start + 2 ≤ offset ∧ bytes[offset]? = some '*'.toUInt8 ∧
    bytes[offset - 1]? ≠ some '/'.toUInt8

/-- A free star with a slash behind it closes the comment. -/
def Closes (bytes : List UInt8) (start offset : Nat) : Prop :=
  FreeStar bytes start offset ∧ bytes[offset + 1]? = some '/'.toUInt8

def ClosesFirst (bytes : List UInt8) (start offset : Nat) : Prop :=
  Closes bytes start offset ∧ forall i, i < offset -> ¬ Closes bytes start i

instance : Decidable (OpensAt bytes start) := inferInstanceAs (Decidable (_ ∧ _))

instance : Decidable (FreeStar bytes start offset) := inferInstanceAs (Decidable (_ ∧ _ ∧ _))

instance : Decidable (Closes bytes start offset) := inferInstanceAs (Decidable (_ ∧ _))

instance : Decidable (ClosesFirst bytes start offset) := inferInstanceAs (Decidable (_ ∧ _))

/-- What is known between two steps through the body of a comment. -/
structure InBody (bytes : List UInt8) (start offset : Nat) (afterStar : Bool) : Prop where
  le : start + 2 ≤ offset
  flag : afterStar = true <-> FreeStar bytes start (offset - 1)
  star : bytes[offset]? = some '*'.toUInt8 -> bytes[offset - 1]? ≠ some '/'.toUInt8
  still : forall i, Closes bytes start i -> offset ≤ i + 1

theorem slash_ne_of_star (hstar : bytes[offset]? = some '*'.toUInt8) :
    bytes[offset]? ≠ some '/'.toUInt8 := by
  rw [hstar]
  decide

/-- The bytes of a token that reaches over a number of bytes. -/
theorem getElem?_token_iff {count i : Nat} {octet : UInt8} :
    ((bytes.drop start).take count)[i]? = some octet <->
      i < count ∧ bytes[start + i]? = some octet := by
  rw [List.getElem?_take, List.getElem?_drop]
  split
  · next hlt => exact (and_iff_right hlt).symm
  · next hge => exact iff_of_false (fun h => by cases h) (fun h => hge h.1)

theorem closesFirst_unique {stop' : Nat} (h : ClosesFirst bytes start stop)
    (h' : ClosesFirst bytes start stop') : stop' = stop := by
  apply Nat.le_antisymm
  · apply Nat.le_of_not_lt
    intro hlt
    exact h'.2 stop hlt h.1
  · apply Nat.le_of_not_lt
    intro hlt
    exact h.2 stop' hlt h'.1

/-!
## Steps through the body
-/

theorem inBody_opening (hopens : OpensAt bytes start) : InBody bytes start (start + 2) false where
  le := Nat.le_refl _
  flag := by
    constructor
    · intro hflag
      cases hflag
    · intro hfree
      exact absurd hfree.1 (Nat.not_succ_le_self (start + 1))
  star _ := slash_ne_of_star hopens.2
  still _ hcloses := Nat.le_succ_of_le hcloses.1.1

theorem closesFirst_of_inBody (h : InBody bytes start offset true)
    (hslash : bytes[offset]? = some '/'.toUInt8) : ClosesFirst bytes start (offset - 1) := by
  have hsucc : offset - 1 + 1 = offset := by
    have hle := h.le
    omega
  constructor
  · refine ⟨h.flag.mp rfl, ?_⟩
    rw [hsucc]
    exact hslash
  · intro i hlt hcloses
    have hle := h.still i hcloses
    omega

/-- Without a flag the slash at the position closes nothing. -/
theorem lt_of_closes (h : InBody bytes start offset afterStar)
    (hquiet : bytes[offset]? = some '/'.toUInt8 -> afterStar = false) {i : Nat}
    (hcloses : Closes bytes start i) : offset < i + 1 := by
  rcases Nat.eq_or_lt_of_le (h.still i hcloses) with heq | hlt
  · have hflag : afterStar = true := by
      apply h.flag.mpr
      rw [heq]
      exact hcloses.1
    have hslash := hcloses.2
    rw [← heq] at hslash
    rw [hquiet hslash] at hflag
    cases hflag
  · exact hlt

theorem inBody_star (h : InBody bytes start offset afterStar)
    (hstar : bytes[offset]? = some '*'.toUInt8) : InBody bytes start (offset + 1) true where
  le := Nat.le_succ_of_le h.le
  flag := iff_of_true rfl ⟨h.le, hstar, h.star hstar⟩
  star _ := slash_ne_of_star hstar
  still _ hcloses :=
    lt_of_closes h (fun hslash => absurd hslash (slash_ne_of_star hstar)) hcloses

theorem inBody_inner_opening (h : InBody bytes start offset false)
    (hslash : bytes[offset]? = some '/'.toUInt8)
    (hstar : bytes[offset + 1]? = some '*'.toUInt8) :
    InBody bytes start (offset + 2) false where
  le := Nat.le_add_right_of_le h.le
  flag := by
    constructor
    · intro hflag
      cases hflag
    · intro hfree
      exact absurd hslash hfree.2.2
  star _ := slash_ne_of_star hstar
  still i hcloses := by
    have hlt := lt_of_closes h (fun _ => rfl) hcloses
    rcases Nat.eq_or_lt_of_le hlt with heq | hafter
    · have hsecond := hcloses.2
      rw [← heq] at hsecond
      exact absurd hsecond (slash_ne_of_star hstar)
    · exact hafter

/-- A step over anything else, whose inner bytes are neither stars nor slashes. -/
theorem inBody_other (h : InBody bytes start offset afterStar) (hlt : offset < stop)
    (hstar : bytes[offset]? ≠ some '*'.toUInt8)
    (hslash : bytes[offset]? = some '/'.toUInt8 ->
      afterStar = false ∧ bytes[offset + 1]? ≠ some '*'.toUInt8)
    (hinner : forall i, offset < i -> i < stop ->
      bytes[i]? ≠ some '*'.toUInt8 ∧ bytes[i]? ≠ some '/'.toUInt8) :
    InBody bytes start stop false where
  le := Nat.le_trans h.le (Nat.le_of_lt hlt)
  flag := by
    constructor
    · intro hflag
      cases hflag
    · intro hfree
      rcases Nat.eq_or_lt_of_le (Nat.le_sub_one_of_lt hlt) with heq | hafter
      · rw [← heq] at hfree
        exact absurd hfree.2.1 hstar
      · exact absurd hfree.2.1 (hinner _ hafter (by omega)).1
  star hthere hbefore := by
    rcases Nat.eq_or_lt_of_le (Nat.le_sub_one_of_lt hlt) with heq | hafter
    · rw [← heq] at hbefore
      have hstop : stop = offset + 1 := by omega
      rw [hstop] at hthere
      exact (hslash hbefore).2 hthere
    · exact (hinner _ hafter (by omega)).2 hbefore
  still i hcloses := by
    apply Nat.le_of_not_lt
    intro hbefore
    have hafter := lt_of_closes h (fun hthere => (hslash hthere).1) hcloses
    exact (hinner (i + 1) hafter hbefore).2 hcloses.2

end BlockComment

namespace TextHost

open BlockComment

variable {host : TextHost} {text : String}

/-- The host after consuming up to an offset. -/
def reach (host : TextHost) (stop : Nat) : TextHost :=
  { host with reader := { host.reader with pos := stop } }

theorem over_reach (h : host.Over text) {stop : Nat} (hlen : stop ≤ (octets text).length) :
    (host.reach stop).Over text :=
  ⟨h.text_eq, h.fits, hlen⟩

theorem advance_eq_reach (host : TextHost) :
    Host.advance host = host.reach host.reader.advance.pos := by
  rw [reach, ← Reader.advance_eq]
  rfl

theorem advance_of_octet (h : host.Over text) {octet : UInt8}
    (hoctet : (octets text)[host.pos]? = some octet) (hascii : octet < 0x80) :
    Host.advance host = host.reach (host.pos + 1) := by
  rw [advance_eq_reach, Reader.pos_advance_of_ascii h hoctet hascii]
  rfl

theorem lookahead_reach_iff (h : host.Over text) {stop : Nat}
    (hlen : stop ≤ (octets text).length) {c : Char} (hplain : IsPlain c) :
    Host.lookahead (host.reach stop) = c <-> (octets text)[stop]? = some c.toUInt8 :=
  lookahead_eq_iff (over_reach h hlen) hplain

/-- No ASCII character stands inside the sequence that a step consumes. -/
theorem not_ascii_in_step (h : host.Over text) {i : Nat} (hfrom : host.pos < i)
    (hto : i < host.reader.advance.pos) {c : Char} (hascii : c.val < 0x80) :
    (octets text)[i]? ≠ some c.toUInt8 := by
  intro hoctet
  have hboundary := boundary_of_ascii hoctet (Reader.toUInt8_lt hascii)
  have hle := Reader.pos_advance_le_of_boundary h hboundary hfrom
  exact Nat.not_lt_of_le hle hto

/-!
## Rounds of the reader
-/

/-- What a round that another one follows takes. -/
inductive Takes (bytes : List UInt8) (round : Round TextHost) : Round TextHost -> Prop where
  | star :
      bytes[round.host.pos]? = some '*'.toUInt8 ->
      Takes bytes round ⟨true, round.depth, round.host.reach (round.host.pos + 1)⟩
  | opening :
      round.afterStar = false -> OpensAt bytes round.host.pos ->
      Takes bytes round ⟨false, round.depth + 1, round.host.reach (round.host.pos + 2)⟩
  | other :
      round.host.pos < bytes.length ->
      bytes[round.host.pos]? ≠ some '*'.toUInt8 ->
      (bytes[round.host.pos]? = some '/'.toUInt8 ->
        round.afterStar = false ∧ bytes[round.host.pos + 1]? ≠ some '*'.toUInt8) ->
      Takes bytes round ⟨false, round.depth, round.host.reach round.host.reader.advance.pos⟩

variable {round next : Round TextHost}

theorem opens_iff (h : round.host.Over text) :
    round.opens = true <-> OpensAt (octets text) round.host.pos := by
  rw [Round.opens, Bool.and_eq_true, beq_iff_eq, beq_iff_eq, lookahead_eq_iff h (by decide)]
  apply and_congr_right
  intro hslash
  rw [advance_of_octet h hslash (by decide),
    lookahead_reach_iff h (lt_length_of_octet hslash) (by decide)]

theorem closes_iff (h : round.host.Over text) :
    round.closes = true <->
      (octets text)[round.host.pos]? = some '/'.toUInt8 ∧ round.afterStar = true := by
  rw [Round.closes, Bool.and_eq_true, beq_iff_eq, lookahead_eq_iff h (by decide)]

theorem takes_of_next? (h : round.host.Over text) (hnext : round.next? = some next) :
    Takes (octets text) round next := by
  rcases Round.next?_eq_some_iff.mp hnext with ⟨hend, hcloses, hbehind⟩
  have hlt : round.host.pos < (octets text).length := by
    apply Nat.lt_of_le_of_ne h.pos_le
    intro heq
    rw [(atEnd_iff h).mpr heq] at hend
    cases hend
  have hflag : (octets text)[round.host.pos]? = some '/'.toUInt8 -> round.afterStar = false := by
    intro hslash
    apply Bool.eq_false_iff.mpr
    intro hflag
    rw [(closes_iff h).mpr ⟨hslash, hflag⟩] at hcloses
    cases hcloses
  rw [hbehind]
  by_cases hstar : (octets text)[round.host.pos]? = some '*'.toUInt8
  · rw [Round.behind_of_star ((lookahead_eq_iff h (by decide)).mpr hstar),
      advance_of_octet h hstar (by decide)]
    exact Takes.star hstar
  · by_cases hopens : OpensAt (octets text) round.host.pos
    · have hlen : round.host.pos + 1 ≤ (octets text).length := lt_length_of_octet hopens.1
      have hslash := (lookahead_eq_iff h (by decide)).mpr hopens.1
      have hfirst := advance_of_octet h hopens.1 (by decide)
      have hsecond := (lookahead_reach_iff h hlen (by decide)).mpr hopens.2
      rw [← hfirst] at hsecond
      rw [Round.behind_of_opening hslash hsecond, hfirst,
        advance_of_octet (over_reach h hlen) hopens.2 (by decide)]
      exact Takes.opening (hflag hopens.1) hopens
    · have hother : Host.lookahead round.host ≠ '*' := by
        rw [ne_eq, lookahead_eq_iff h (by decide)]
        exact hstar
      rw [Round.behind_of_other hother (Bool.eq_false_iff.mpr (mt (opens_iff h).mp hopens)),
        advance_eq_reach]
      apply Takes.other hlt hstar
      intro hslash
      exact ⟨hflag hslash, fun hsecond => hopens ⟨hslash, hsecond⟩⟩

theorem read_of_end (h : round.host.Over text) (hend : round.host.pos = (octets text).length) :
    round.read =
      (Outcome.done (round.host.reach (octets text).length) false).report
        (.commentUnterminated round.depth) := by
  have hatEnd := (atEnd_iff h).mpr hend
  rw [Round.read_of_last (lively text) h (Round.next?_eq_none_iff.mpr (Or.inl hatEnd)),
    if_pos hatEnd, ← hend]
  rfl

theorem read_of_closing (h : round.host.Over text) (hcloses : round.closes = true) :
    round.read =
      (Outcome.done (Host.markEnd (round.host.reach (round.host.pos + 1))) true).report
        (.commentClosed (round.depth - 1)) := by
  have hslash := ((closes_iff h).mp hcloses).1
  rw [Round.read_of_last (lively text) h (Round.next?_eq_none_iff.mpr (Or.inr hcloses)),
    atEnd_of_lt h (lt_length_of_octet hslash), advance_of_octet h hslash (by decide)]
  rfl

theorem inBody_advance (h : host.Over text) {start : Nat} {afterStar : Bool}
    (hbody : InBody (octets text) start host.pos afterStar)
    (hlt : host.pos < (octets text).length)
    (hstar : (octets text)[host.pos]? ≠ some '*'.toUInt8)
    (hslash : (octets text)[host.pos]? = some '/'.toUInt8 ->
      afterStar = false ∧ (octets text)[host.pos + 1]? ≠ some '*'.toUInt8) :
    InBody (octets text) start host.reader.advance.pos false := by
  apply inBody_other hbody (Reader.pos_lt_advance h (atEnd_of_lt h hlt)) hstar hslash
  intro i hfrom hto
  constructor
  · exact not_ascii_in_step h hfrom hto (by decide)
  · exact not_ascii_in_step h hfrom hto (by decide)

/-- What is known of a round through the body of a comment that opens at an offset. -/
structure InComment (host : TextHost) (text : String) (start : Nat) (round : Round TextHost) :
    Prop where
  onText : round.host.Over text
  reached : round.host = host.reach round.host.pos
  body : InBody (octets text) start round.host.pos round.afterStar

theorem inBody_of_takes (h : round.host.Over text) {start : Nat}
    (hbody : InBody (octets text) start round.host.pos round.afterStar)
    (htakes : Takes (octets text) round next) :
    InBody (octets text) start next.host.pos next.afterStar := by
  cases htakes with
  | star hstar => exact inBody_star hbody hstar
  | opening hflag hopens =>
      rw [hflag] at hbody
      exact inBody_inner_opening hbody hopens.1 hopens.2
  | other hlt hstar hslash => exact inBody_advance h hbody hlt hstar hslash

theorem reach_of_reached (hreached : round.host = host.reach round.host.pos) (stop : Nat) :
    round.host.reach stop = host.reach stop := by
  rw [hreached]
  rfl

theorem reached_of_takes (hreached : round.host = host.reach round.host.pos) {bytes : List UInt8}
    (htakes : Takes bytes round next) : next.host = host.reach next.host.pos := by
  cases htakes with
  | star _ => exact reach_of_reached hreached _
  | opening _ _ => exact reach_of_reached hreached _
  | other _ _ _ => exact reach_of_reached hreached _

theorem inComment_next {start : Nat} (h : InComment host text start round)
    (hnext : round.next? = some next) : InComment host text start next where
  onText := (Round.kept_next (lively text) h.onText hnext).1
  reached := reached_of_takes h.reached (takes_of_next? h.onText hnext)
  body := inBody_of_takes h.onText h.body (takes_of_next? h.onText hnext)

theorem not_closes_of_end {start : Nat} (h : InComment host text start round)
    (hend : round.host.pos = (octets text).length) (i : Nat) :
    ¬ Closes (octets text) start i := by
  intro hcloses
  have hstill := h.body.still i hcloses
  have hbefore := lt_length_of_octet hcloses.2
  omega

theorem closesFirst_of_closes {start : Nat} (h : InComment host text start round)
    (hcloses : round.closes = true) :
    exists stop, ClosesFirst (octets text) start stop ∧ round.host.pos = stop + 1 := by
  rcases (closes_iff h.onText).mp hcloses with ⟨hslash, hflag⟩
  have hbody := h.body
  have hfrom := hbody.le
  rw [hflag] at hbody
  exact ⟨round.host.pos - 1, closesFirst_of_inBody hbody hslash, by omega⟩

/-!
## The whole body

What is known of every round is known of the last one.
-/

/-- The two ways in which the body of a comment is read. -/
inductive ReadsBody (host : TextHost) (text : String) (start : Nat) :
    Outcome TextHost Bool -> Prop where
  | closed {stop : Nat} {depth : UInt32} :
      ClosesFirst (octets text) start stop ->
      ReadsBody host text start
        ((Outcome.done (Host.markEnd (host.reach (stop + 2))) true).report
          (.commentClosed depth))
  | unterminated {depth : UInt32} :
      (forall i, ¬ Closes (octets text) start i) ->
      ReadsBody host text start
        ((Outcome.done (host.reach (octets text).length) false).report
          (.commentUnterminated depth))

theorem readsBody_of_last {start : Nat} (h : InComment host text start round)
    (hlast : round.next? = none) : ReadsBody host text start round.read := by
  rcases Round.next?_eq_none_iff.mp hlast with hend | hcloses
  · have hpos := (atEnd_iff h.onText).mp hend
    rw [read_of_end h.onText hpos, reach_of_reached h.reached]
    exact ReadsBody.unterminated (not_closes_of_end h hpos)
  · rcases closesFirst_of_closes h hcloses with ⟨stop, hfirst, hpos⟩
    rw [read_of_closing h.onText hcloses, reach_of_reached h.reached, hpos]
    exact ReadsBody.closed hfirst

/-!
## The token
-/

theorem scan_of_not_slash (h : host.Over text)
    (hslash : (octets text)[host.pos]? ≠ some '/'.toUInt8) :
    BlockComment.scan host = .done host false := by
  have hnext : ¬ Host.lookahead host = '/' := by
    rw [lookahead_eq_iff h (by decide)]
    exact hslash
  rw [BlockComment.scan, if_neg hnext]

theorem scan_of_lone_slash (h : host.Over text)
    (hslash : (octets text)[host.pos]? = some '/'.toUInt8)
    (hstar : (octets text)[host.pos + 1]? ≠ some '*'.toUInt8) :
    BlockComment.scan host = .done (host.reach (host.pos + 1)) false := by
  have hnext : Host.lookahead host = '/' :=
    (lookahead_eq_iff h (by decide)).mpr hslash
  have hsecond : ¬ Host.lookahead (host.reach (host.pos + 1)) = '*' := by
    rw [lookahead_reach_iff h (lt_length_of_octet hslash) (by decide)]
    exact hstar
  rw [BlockComment.scan, if_pos hnext, advance_of_octet h hslash (by decide), if_neg hsecond]

/-- Where no opening stands, nothing is read but a lone slash. -/
theorem scan_of_not_opensAt (h : host.Over text)
    (hnot : ¬ OpensAt (octets text) host.pos) :
    exists after, BlockComment.scan host = .done after false := by
  by_cases hslash : (octets text)[host.pos]? = some '/'.toUInt8
  · exact ⟨_, scan_of_lone_slash h hslash fun hstar => hnot ⟨hslash, hstar⟩⟩
  · exact ⟨_, scan_of_not_slash h hslash⟩

theorem first_of_opensAt (h : host.Over text) (hopens : OpensAt (octets text) host.pos) :
    BlockComment.scan host = (Round.first host).read ∧
      Round.first host = ⟨false, 1, host.reach (host.pos + 2)⟩ := by
  have hlen : host.pos + 1 ≤ (octets text).length := lt_length_of_octet hopens.1
  have hslash := (lookahead_eq_iff h (by decide)).mpr hopens.1
  have hfirst := advance_of_octet h hopens.1 (by decide)
  have hstar := (lookahead_reach_iff h hlen (by decide)).mpr hopens.2
  rw [← hfirst] at hstar
  refine ⟨Round.scan_eq_first hslash hstar, ?_⟩
  rw [Round.first, hfirst, advance_of_octet (over_reach h hlen) hopens.2 (by decide)]
  rfl

theorem inComment_first (h : host.Over text) (hopens : OpensAt (octets text) host.pos) :
    InComment host text host.pos (Round.first host) := by
  rw [(first_of_opensAt h hopens).2]
  exact ⟨over_reach h (lt_length_of_octet hopens.2), rfl, inBody_opening hopens⟩

theorem scan_of_opensAt (h : host.Over text) (hopens : OpensAt (octets text) host.pos) :
    ReadsBody host text host.pos (BlockComment.scan host) := by
  have hstart := inComment_first h hopens
  rcases Round.exists_last (lively text) hstart.onText with ⟨last, hpasses, hlast, hread⟩
  rw [(first_of_opensAt h hopens).1, hread]
  exact readsBody_of_last (hpasses.keeps hstart inComment_next) hlast

theorem scan_of_closesFirst (h : host.Over text) (hopens : OpensAt (octets text) host.pos)
    {stop : Nat} (hfirst : ClosesFirst (octets text) host.pos stop) :
    exists depth, BlockComment.scan host =
      (Outcome.done (Host.markEnd (host.reach (stop + 2))) true).report
        (.commentClosed depth) := by
  have hreads := scan_of_opensAt h hopens
  generalize BlockComment.scan host = outcome at hreads
  cases hreads with
  | @closed stop' depth hfirst' =>
      rw [closesFirst_unique hfirst hfirst']
      exact ⟨depth, rfl⟩
  | unterminated hnone => exact absurd hfirst.1 (hnone stop)

theorem exists_closesFirst_of_scan (h : host.Over text)
    (hclosed : (BlockComment.scan host).result = true) :
    OpensAt (octets text) host.pos ∧ exists stop, ClosesFirst (octets text) host.pos stop := by
  by_cases hslash : (octets text)[host.pos]? = some '/'.toUInt8
  · by_cases hstar : (octets text)[host.pos + 1]? = some '*'.toUInt8
    · have hreads := scan_of_opensAt h ⟨hslash, hstar⟩
      generalize BlockComment.scan host = outcome at hreads hclosed
      cases hreads with
      | @closed stop depth hfirst => exact ⟨⟨hslash, hstar⟩, stop, hfirst⟩
      | unterminated _ => cases hclosed
    · rw [scan_of_lone_slash h hslash hstar] at hclosed
      cases hclosed
  · rw [scan_of_not_slash h hslash] at hclosed
    cases hclosed

theorem not_closes_of_scan (h : host.Over text) (hopens : OpensAt (octets text) host.pos)
    (hfailed : (BlockComment.scan host).result = false) (i : Nat) :
    ¬ Closes (octets text) host.pos i := by
  have hreads := scan_of_opensAt h hopens
  generalize BlockComment.scan host = outcome at hreads hfailed
  cases hreads with
  | closed _ => cases hfailed
  | unterminated hnone => exact hnone i

/-- The text of a comment token that starts afresh at its opening. -/
theorem tokenText_of_closesFirst (h : host.Over text) (hfresh : host.bounds = .fresh host.pos)
    (hopens : OpensAt (octets text) host.pos) {stop : Nat}
    (hfirst : ClosesFirst (octets text) host.pos stop) :
    octets (BlockComment.scan host).host.tokenText =
      ((octets text).drop host.pos).take (stop + 2 - host.pos) := by
  rcases scan_of_closesFirst h hopens hfirst with ⟨depth, hscan⟩
  have hle : host.pos ≤ stop + 2 := by
    have hfrom := hfirst.1.1.1
    omega
  have hstop : CharBoundary text (stop + 2) :=
    boundary_succ_of_ascii hfirst.1.2 (by decide)
  have htoken : (BlockComment.scan host).host.tokenText =
      host.reader.slice host.pos (stop + 2) := by
    rw [hscan]
    show host.reader.slice (min host.bounds.start (stop + 2)) (stop + 2) = _
    rw [hfresh]
    show host.reader.slice (min host.pos (stop + 2)) (stop + 2) = _
    rw [Nat.min_eq_left hle]
  rw [htoken]
  exact Reader.octets_slice h (boundary_of_ascii hopens.1 (by decide)) hstop hle

theorem pos_seek_pos (h : host.Over text) : (host.seek host.pos).pos = host.pos := by
  rw [pos_seek, Reader.length_of_over h]
  exact Nat.min_eq_left h.pos_le

/-- A block comment token is read exactly where one stands in what is kept of the source,
and ends with its first free star-slash. -/
theorem scan_accepts_exactly_comments (source : String) (h : host.Over (kept source)) :
    (BlockComment.scan host).stalled = false ∧
    ((BlockComment.scan host).result = true <->
      OpensAt (octets (kept source)) host.pos ∧
        exists stop, Closes (octets (kept source)) host.pos stop) ∧
    (forall stop, OpensAt (octets (kept source)) host.pos ->
      ClosesFirst (octets (kept source)) host.pos stop ->
      (BlockComment.scan host).host.pos = stop + 2 ∧
      (BlockComment.scan host).host.bounds =
        { start := host.bounds.start, stop? := some (stop + 2) } ∧
      octets (BlockComment.scan (host.seek host.pos)).host.tokenText =
        ((octets (kept source)).drop host.pos).take (stop + 2 - host.pos)) ∧
    ((BlockComment.scan host).result = false ->
      (BlockComment.scan host).host.bounds = host.bounds ∧
      (BlockComment.scan host).host.pos =
        if (octets (kept source))[host.pos]? ≠ some '/'.toUInt8 then host.pos
        else if (octets (kept source))[host.pos + 1]? ≠ some '*'.toUInt8 then host.pos + 1
        else (octets (kept source)).length) := by
  generalize kept source = text at h
  have hsuccess : forall stop, OpensAt (octets text) host.pos ->
      ClosesFirst (octets text) host.pos stop ->
      (BlockComment.scan host).host.pos = stop + 2 ∧
      (BlockComment.scan host).host.bounds =
        { start := host.bounds.start, stop? := some (stop + 2) } ∧
      octets (BlockComment.scan (host.seek host.pos)).host.tokenText =
        ((octets text).drop host.pos).take (stop + 2 - host.pos) := by
    intro stop hopens hfirst
    rcases scan_of_closesFirst h hopens hfirst with ⟨depth, hscan⟩
    have hover : (host.seek host.pos).Over text := Reader.over_seek h host.pos
    have htoken := @tokenText_of_closesFirst _ _ hover (bounds_seek host host.pos)
    rw [pos_seek_pos h] at htoken
    rw [hscan]
    exact ⟨rfl, rfl, htoken hopens hfirst⟩
  by_cases hslash : (octets text)[host.pos]? = some '/'.toUInt8
  · by_cases hstar : (octets text)[host.pos + 1]? = some '*'.toUInt8
    · have hopens : OpensAt (octets text) host.pos := ⟨hslash, hstar⟩
      have hreads := scan_of_opensAt h hopens
      generalize BlockComment.scan host = outcome at hreads hsuccess
      cases hreads with
      | @closed stop depth hfirst =>
          refine ⟨rfl, iff_of_true rfl ⟨hopens, stop, hfirst.1⟩, hsuccess, ?_⟩
          intro hfailed
          cases hfailed
      | unterminated hnone =>
          refine ⟨rfl, ?_, hsuccess, ?_⟩
          · apply iff_of_false Bool.noConfusion
            intro hfound
            rcases hfound with ⟨_, stop, hcloses⟩
            exact hnone stop hcloses
          · intro _
            rw [if_neg (not_not_intro hslash), if_neg (not_not_intro hstar)]
            exact ⟨rfl, rfl⟩
    · have hscan := scan_of_lone_slash h hslash hstar
      refine ⟨by rw [hscan]; rfl, ?_, hsuccess, ?_⟩
      · rw [hscan]
        exact iff_of_false Bool.noConfusion fun hfound => hstar hfound.1.2
      · intro _
        rw [hscan, if_neg (not_not_intro hslash), if_pos hstar]
        exact ⟨rfl, rfl⟩
  · have hscan := scan_of_not_slash h hslash
    refine ⟨by rw [hscan]; rfl, ?_, hsuccess, ?_⟩
    · rw [hscan]
      exact iff_of_false Bool.noConfusion fun hfound => hslash hfound.1.1
    · intro _
      rw [hscan, if_pos hslash]
      exact ⟨rfl, rfl⟩

theorem scan_accepts_behind_inner_opening :
    (ofString "/*/*/ */x").Over (kept "/*/*/ */x") ∧
      OpensAt (octets "/*/*/ */x") 0 ∧ ClosesFirst (octets "/*/*/ */x") 0 6 ∧
        (BlockComment.scan (ofString "/*/*/ */x")).result = true ∧
          (BlockComment.scan (ofString "/*/*/ */x")).host.pos = 8 := by
  have hover : (ofString "/*/*/ */x").Over (kept "/*/*/ */x") :=
    Reader.over_ofString "/*/*/ */x"
  have hkept : kept "/*/*/ */x" = "/*/*/ */x" := kept_of_fits (by decide +kernel)
  have hopens : OpensAt (octets "/*/*/ */x") 0 := by decide +kernel
  have hfirst : ClosesFirst (octets "/*/*/ */x") 0 6 := by decide +kernel
  have hscan := scan_accepts_exactly_comments "/*/*/ */x" hover
  rw [hkept] at hscan
  rcases hscan with ⟨_, hresult, hsuccess, _⟩
  exact ⟨hover, hopens, hfirst, hresult.mpr ⟨hopens, 6, hfirst.1⟩, (hsuccess 6 hopens hfirst).1⟩

end TextHost
end StatementEnd
