import Mathlib.Data.Nat.Count
import StatementEnd.Proofs.CommentTokens

/-!
# The depth of a comment

The body of a comment keeps a depth: one for the opening of the comment, and one more for
every slash-star behind it that was read. Every slash-star behind the opening is read as an
inner opening, because the round that reaches its slash does not stand behind a free star.
The depth is therefore a count of bytes. It takes two bytes to count an opening, so that the
depth stays far below the largest number it can hold.
-/

namespace StatementEnd

open Text

namespace BlockComment

variable {bytes : List UInt8} {start offset stop : Nat}

/-- The number of slash-stars that start at an offset from one on and before another. -/
def openings (bytes : List UInt8) (start stop : Nat) : Nat :=
  Nat.count (fun i => start ≤ i ∧ OpensAt bytes i) stop

/-!
## Counting along the bytes
-/

theorem openings_of_le (hle : stop ≤ start) : openings bytes start stop = 0 := by
  apply Nat.count_iff_forall_not.mpr
  intro i hlt hcounted
  omega

theorem openings_of_none (hle : offset ≤ stop)
    (hnone : forall i, offset ≤ i -> i < stop -> ¬ OpensAt bytes i) :
    openings bytes start stop = openings bytes start offset := by
  rcases Nat.exists_eq_add_of_le hle with ⟨count, hcount⟩
  subst hcount
  rw [openings, Nat.count_add]
  apply Nat.add_eq_left.mpr
  apply Nat.count_iff_forall_not.mpr
  intro i hlt hcounted
  exact hnone (offset + i) (Nat.le_add_right _ _) (by omega) hcounted.2

/-- No slash-star starts at the star of another one. -/
theorem openings_over_opening (hle : start ≤ offset) (hopens : OpensAt bytes offset) :
    openings bytes start (offset + 2) = openings bytes start offset + 1 := by
  have hstar : ¬ OpensAt bytes (offset + 1) := fun h => slash_ne_of_star hopens.2 h.1
  rw [openings, Nat.count_succ, if_neg (fun h => hstar h.2), Nat.count_succ,
    if_pos ⟨hle, hopens⟩]
  rfl

theorem openings_le (bytes : List UInt8) (start stop : Nat) :
    openings bytes start stop ≤ stop - start := by
  rcases Nat.le_total stop start with hle | hle
  · rw [openings_of_le hle]
    exact Nat.zero_le _
  · rcases Nat.exists_eq_add_of_le hle with ⟨count, hcount⟩
    have hbefore : openings bytes start start = 0 := openings_of_le (Nat.le_refl _)
    rw [openings] at hbefore
    rw [hcount, openings, Nat.count_add, hbefore, Nat.zero_add, Nat.add_sub_cancel_left]
    exact Nat.count_le _

theorem opensAt_token_iff {count i : Nat} :
    OpensAt ((bytes.drop start).take count) i <-> i + 1 < count ∧ OpensAt bytes (start + i) := by
  rw [OpensAt, OpensAt, getElem?_token_iff, getElem?_token_iff]
  constructor
  · intro h
    exact ⟨h.2.1, h.1.2, h.2.2⟩
  · intro h
    exact ⟨⟨Nat.lt_of_succ_lt h.1, h.2.1⟩, h.1, h.2.2⟩

/-- No slash-star starts at the last byte of a token. -/
theorem openings_token (count : Nat) :
    openings ((bytes.drop start).take (count + 1)) offset (count + 1) =
      openings bytes (start + offset) (start + count) := by
  have hlast : openings ((bytes.drop start).take (count + 1)) offset (count + 1) =
      openings ((bytes.drop start).take (count + 1)) offset count := by
    apply openings_of_none (Nat.le_succ count)
    intro i hfrom _ hopens
    have hbefore := (opensAt_token_iff.mp hopens).1
    omega
  have hsame : openings ((bytes.drop start).take (count + 1)) offset count =
      Nat.count (fun i => start + offset ≤ start + i ∧ OpensAt bytes (start + i)) count := by
    apply Nat.le_antisymm
    · apply Nat.count_mono_left
      intro i _ hcounted
      exact ⟨Nat.add_le_add_left hcounted.1 start, (opensAt_token_iff.mp hcounted.2).2⟩
    · apply Nat.count_mono_left
      intro i hlt hcounted
      exact ⟨Nat.le_of_add_le_add_left hcounted.1,
        opensAt_token_iff.mpr ⟨Nat.succ_lt_succ hlt, hcounted.2⟩⟩
  have hbefore : openings bytes (start + offset) start = 0 :=
    openings_of_le (Nat.le_add_right _ _)
  rw [openings] at hbefore
  rw [hlast, hsame, openings, Nat.count_add, hbefore, Nat.zero_add]

end BlockComment

namespace TextHost

open BlockComment

variable {host : TextHost} {text : String} {start : Nat} {round next : Round TextHost}

/-!
## Counting round by round
-/

/-- The depth of a round counts the openings before it, each of which took two bytes. -/
structure Counted (bytes : List UInt8) (start : Nat) (round : Round TextHost) : Prop where
  depth : round.depth = UInt32.ofNat (1 + openings bytes (start + 2) round.host.pos)
  twice : start + 2 * (1 + openings bytes (start + 2) round.host.pos) ≤ round.host.pos

theorem counted_of_none {bytes : List UInt8} (h : Counted bytes start round) {stop : Nat}
    (afterStar : Bool) (hle : round.host.pos ≤ stop)
    (hnone : forall i, round.host.pos ≤ i -> i < stop -> ¬ OpensAt bytes i) :
    Counted bytes start ⟨afterStar, round.depth, round.host.reach stop⟩ := by
  have hsame : openings bytes (start + 2) stop = openings bytes (start + 2) round.host.pos :=
    openings_of_none hle hnone
  constructor
  · show round.depth = UInt32.ofNat (1 + openings bytes (start + 2) stop)
    rw [hsame]
    exact h.depth
  · show start + 2 * (1 + openings bytes (start + 2) stop) ≤ stop
    rw [hsame]
    exact Nat.le_trans h.twice hle

theorem counted_of_opening {bytes : List UInt8} (h : Counted bytes start round)
    (hopens : OpensAt bytes round.host.pos) :
    Counted bytes start ⟨false, round.depth + 1, round.host.reach (round.host.pos + 2)⟩ := by
  have htwice := h.twice
  have hmore : openings bytes (start + 2) (round.host.pos + 2) =
      openings bytes (start + 2) round.host.pos + 1 :=
    openings_over_opening (by omega) hopens
  constructor
  · show round.depth + 1 = UInt32.ofNat (1 + openings bytes (start + 2) (round.host.pos + 2))
    rw [hmore, ← Nat.add_assoc, UInt32.ofNat_add, ← h.depth]
    rfl
  · show start + 2 * (1 + openings bytes (start + 2) (round.host.pos + 2)) ≤ round.host.pos + 2
    rw [hmore]
    omega

theorem counted_of_takes (h : round.host.Over text)
    (hcounted : Counted (octets text) start round) (htakes : Takes (octets text) round next) :
    Counted (octets text) start next := by
  cases htakes with
  | star hstar =>
      apply counted_of_none hcounted true (Nat.le_succ _)
      intro i hfrom hto hopens
      rw [Nat.le_antisymm (Nat.le_of_lt_succ hto) hfrom] at hopens
      exact slash_ne_of_star hstar hopens.1
  | opening _ hopens => exact counted_of_opening hcounted hopens
  | other hlt _ hslash =>
      have hnext := Reader.pos_lt_advance h (atEnd_of_lt h hlt)
      apply counted_of_none hcounted false (Nat.le_of_lt hnext)
      intro i hfrom hto hopens
      rcases Nat.eq_or_lt_of_le hfrom with heq | hafter
      · rw [← heq] at hopens
        exact (hslash hopens.1).2 hopens.2
      · -- further bytes of the character are no slashes
        exact not_ascii_in_step h hafter hto (by decide) hopens.1

theorem counted_first (h : host.Over text) (hopens : OpensAt (octets text) host.pos) :
    Counted (octets text) host.pos (Round.first host) := by
  have hnone : openings (octets text) (host.pos + 2) (host.pos + 2) = 0 :=
    openings_of_le (Nat.le_refl _)
  rw [(first_of_opensAt h hopens).2]
  constructor
  · show (1 : UInt32) = UInt32.ofNat (1 + openings (octets text) (host.pos + 2) (host.pos + 2))
    rw [hnone]
    rfl
  · show host.pos + 2 * (1 + openings (octets text) (host.pos + 2) (host.pos + 2)) ≤ host.pos + 2
    rw [hnone]

/-- Every round of a comment stands in it and has counted the openings before it. -/
theorem counted_of_passes (h : host.Over text) (hopens : OpensAt (octets text) host.pos)
    (hpasses : Round.Passes (Round.first host) round) :
    InComment host text host.pos round ∧ Counted (octets text) host.pos round := by
  apply hpasses.keeps (I := fun round =>
    InComment host text host.pos round ∧ Counted (octets text) host.pos round)
  · exact ⟨inComment_first h hopens, counted_first h hopens⟩
  · intro round next hround hnext
    have hover := hround.1.onText
    exact ⟨inComment_next hround.1 hnext,
      counted_of_takes hover hround.2 (takes_of_next? hover hnext)⟩

/-!
## What is reported of a comment
-/

/-- What is reported of a comment that opens at an offset. -/
inductive ReportsComment (bytes : List UInt8) (start : Nat) : List Event -> Prop where
  | closed {stop : Nat} :
      ClosesFirst bytes start stop ->
      ReportsComment bytes start
        [.commentClosed (UInt32.ofNat (openings bytes (start + 2) (stop + 1)))]
  | unterminated :
      (forall i, ¬ Closes bytes start i) ->
      ReportsComment bytes start
        [.commentUnterminated (UInt32.ofNat (1 + openings bytes (start + 2) bytes.length))]

theorem scan_reports (h : host.Over text) (hopens : OpensAt (octets text) host.pos) :
    ReportsComment (octets text) host.pos (BlockComment.scan host).events := by
  have hfirst := inComment_first h hopens
  rcases Round.exists_last (lively text) hfirst.onText with ⟨last, hpasses, hlast, hread⟩
  rcases counted_of_passes h hopens hpasses with ⟨hthere, hcounted⟩
  rw [(first_of_opensAt h hopens).1, hread]
  rcases Round.next?_eq_none_iff.mp hlast with hend | hcloses
  · have hpos := (atEnd_iff hthere.onText).mp hend
    have hdepth := hcounted.depth
    rw [hpos] at hdepth
    rw [read_of_end hthere.onText hpos, hdepth]
    exact ReportsComment.unterminated (not_closes_of_end hthere hpos)
  · rcases closesFirst_of_closes hthere hcloses with ⟨stop, hfirst, hpos⟩
    have hdepth : last.depth - 1 =
        UInt32.ofNat (openings (octets text) (host.pos + 2) (stop + 1)) := by
      rw [hcounted.depth, hpos, Nat.add_comm, UInt32.ofNat_add]
      exact UInt32.add_sub_cancel _ _
    rw [read_of_closing hthere.onText hcloses, hdepth]
    exact ReportsComment.closed hfirst

/-!
## The depth as a number
-/

/-- The bytes of the comment token that starts afresh where a host stands. -/
def commentBytes (host : TextHost) : List UInt8 :=
  octets (BlockComment.scan (host.seek host.pos)).host.tokenText

/-- Nothing is reported but one event, with a message and a depth. -/
def TellsDepth (events : List Event) (message : String) (depth : Nat) : Prop :=
  exists event : Event, events = [event] ∧ event.message = message ∧
    event.fields = [("depth", .number depth)]

/-- The depth of a round is a count of openings. It can be raised and lowered by one. -/
structure DepthInRange (text : String) (start : Nat) (round : Round TextHost) : Prop where
  counts : round.depth.toNat = 1 + openings (octets text) (start + 2) round.host.pos
  positive : 1 ≤ round.depth.toNat
  bounded : round.depth.toNat ≤ 1 + (text.utf8ByteSize - start) / 2
  room : round.depth.toNat + 1 < UInt32.size

/-- The depth of the comment at the position of a host, in every round and as reported. -/
structure CountsOpenings (host : TextHost) (text : String) : Prop where
  rounds : OpensAt (octets text) host.pos ->
    forall round, Round.Passes (Round.first host) round ->
      BlockComment.scan host = round.read ∧ DepthInRange text host.pos round
  closed : (BlockComment.scan host).result = true ->
    TellsDepth (BlockComment.scan host).events "block comment closed"
      (openings (commentBytes host) 2 (commentBytes host).length)
  unterminated : OpensAt (octets text) host.pos -> (BlockComment.scan host).result = false ->
    TellsDepth (BlockComment.scan host).events "unterminated block comment"
      (1 + openings (octets text) (host.pos + 2) (octets text).length)
  silent : ¬ OpensAt (octets text) host.pos -> (BlockComment.scan host).events = []

theorem depthInRange_of_counted (hlen : text.utf8ByteSize < UInt32.size)
    (hthere : InComment host text start round) (h : Counted (octets text) start round) :
    DepthInRange text start round := by
  have hpos : round.host.pos ≤ (octets text).length := hthere.onText.pos_le
  rw [length_octets] at hpos
  have htwice := h.twice
  have hdepth : round.depth.toNat = 1 + openings (octets text) (start + 2) round.host.pos := by
    rw [h.depth]
    exact UInt32.toNat_ofNat_of_lt' (by omega)
  constructor
  · exact hdepth
  · rw [hdepth]
    exact Nat.le_add_right 1 _
  · rw [hdepth]
    omega
  · rw [hdepth]
    omega

theorem commentBytes_of_closesFirst (h : host.Over text)
    (hopens : OpensAt (octets text) host.pos) {stop : Nat}
    (hfirst : ClosesFirst (octets text) host.pos stop) :
    commentBytes host = ((octets text).drop host.pos).take (stop + 2 - host.pos) := by
  have hover : (host.seek host.pos).Over text := Reader.over_seek h host.pos
  have htoken := @tokenText_of_closesFirst _ _ hover (bounds_seek host host.pos)
  rw [pos_seek_pos h] at htoken
  exact htoken hopens hfirst

theorem openings_commentBytes (h : host.Over text) (hopens : OpensAt (octets text) host.pos)
    {stop : Nat} (hfirst : ClosesFirst (octets text) host.pos stop) :
    openings (commentBytes host) 2 (commentBytes host).length =
      openings (octets text) (host.pos + 2) (stop + 1) := by
  have hfrom := hfirst.1.1.1
  have hafter : stop + 1 < (octets text).length := lt_length_of_octet hfirst.1.2
  have hsplit : stop + 2 - host.pos = stop + 1 - host.pos + 1 := by omega
  have hbytes := commentBytes_of_closesFirst h hopens hfirst
  rw [hsplit] at hbytes
  have hlen : (commentBytes host).length = stop + 1 - host.pos + 1 := by
    rw [hbytes, List.length_take, List.length_drop]
    omega
  rw [hlen, hbytes, openings_token, Nat.add_sub_of_le (by omega)]

theorem tells_of_closed (h : host.Over text) (hlen : text.utf8ByteSize < UInt32.size)
    (hclosed : (BlockComment.scan host).result = true) :
    TellsDepth (BlockComment.scan host).events "block comment closed"
      (openings (commentBytes host) 2 (commentBytes host).length) := by
  rcases exists_closesFirst_of_scan h hclosed with ⟨hopens, stop, hfirst⟩
  have hreports := scan_reports h hopens
  generalize (BlockComment.scan host).events = events at hreports
  cases hreports with
  | @closed stop' hfirst' =>
      rw [closesFirst_unique hfirst hfirst', openings_commentBytes h hopens hfirst]
      have hbefore : stop + 1 < (octets text).length := lt_length_of_octet hfirst.1.2
      have hle := openings_le (octets text) (host.pos + 2) (stop + 1)
      rw [length_octets] at hbefore
      refine ⟨_, rfl, rfl, ?_⟩
      rw [Event.fields, Event.fieldsBy, UInt32.toNat_ofNat_of_lt' (by omega)]
  | unterminated hnone => exact absurd hfirst.1 (hnone stop)

theorem tells_of_unterminated (h : host.Over text) (hlen : text.utf8ByteSize < UInt32.size)
    (hopens : OpensAt (octets text) host.pos)
    (hfailed : (BlockComment.scan host).result = false) :
    TellsDepth (BlockComment.scan host).events "unterminated block comment"
      (1 + openings (octets text) (host.pos + 2) (octets text).length) := by
  have hnone := not_closes_of_scan h hopens hfailed
  have hreports := scan_reports h hopens
  generalize (BlockComment.scan host).events = events at hreports
  cases hreports with
  | @closed stop hfirst => exact absurd hfirst.1 (hnone stop)
  | unterminated _ =>
      have hbefore : host.pos + 1 < (octets text).length := lt_length_of_octet hopens.2
      have hle := openings_le (octets text) (host.pos + 2) (octets text).length
      have hfits : 1 + openings (octets text) (host.pos + 2) (octets text).length <
          UInt32.size := by
        rw [← length_octets] at hlen
        omega
      refine ⟨_, rfl, rfl, ?_⟩
      rw [Event.fields, Event.fieldsBy, UInt32.toNat_ofNat_of_lt' hfits]

/-- In a text whose length is a 32-bit number, the depth of a comment counts its inner
openings exactly, and neither counting one nor the closing leaves the range of the depth. -/
theorem comment_depth_counts_openings (h : host.Over text)
    (hlen : text.utf8ByteSize < UInt32.size) : CountsOpenings host text where
  rounds hopens round hpasses := by
    rcases counted_of_passes h hopens hpasses with ⟨hthere, hcounted⟩
    have hfirst := inComment_first h hopens
    refine ⟨?_, depthInRange_of_counted hlen hthere hcounted⟩
    rw [(first_of_opensAt h hopens).1]
    exact (Round.read_of_passes (lively text) hfirst.onText hpasses).2
  closed := tells_of_closed h hlen
  unterminated := tells_of_unterminated h hlen
  silent hnot := by
    rcases scan_of_not_opensAt h hnot with ⟨after, hscan⟩
    rw [hscan]
    rfl

theorem comment_depth_counts_two_openings :
    (ofString "/* /*/ /* */").Over "/* /*/ /* */" ∧
      "/* /*/ /* */".utf8ByteSize < UInt32.size ∧
        (BlockComment.scan (ofString "/* /*/ /* */")).result = true ∧
          TellsDepth (BlockComment.scan (ofString "/* /*/ /* */")).events
            "block comment closed" 2 := by
  have hlen : "/* /*/ /* */".utf8ByteSize < UInt32.size := by decide +kernel
  have hover : (ofString "/* /*/ /* */").Over "/* /*/ /* */" := Reader.over_of_fits hlen
  have hopens : OpensAt (octets "/* /*/ /* */") 0 := by decide +kernel
  have hfirst : ClosesFirst (octets "/* /*/ /* */") 0 10 := by decide +kernel
  have hcount : openings (octets "/* /*/ /* */") 2 11 = 2 := by decide +kernel
  have hclosed : (BlockComment.scan (ofString "/* /*/ /* */")).result = true := by
    rcases scan_of_closesFirst hover hopens hfirst with ⟨_, hscan⟩
    rw [hscan]
    rfl
  have htold := (comment_depth_counts_openings hover hlen).closed hclosed
  rw [openings_commentBytes hover hopens hfirst] at htold
  change TellsDepth _ _ (openings (octets "/* /*/ /* */") 2 11) at htold
  rw [hcount] at htold
  exact ⟨hover, hlen, hclosed, htold⟩

end TextHost
end StatementEnd
