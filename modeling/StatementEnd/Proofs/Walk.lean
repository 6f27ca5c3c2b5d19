import StatementEnd.Host.Text
import StatementEnd.Proofs.Progress
import StatementEnd.Proofs.Reading

/-!
# Walks over a text

What skipping does to a host over a text: it puts the position elsewhere and the
start of the token with it, and leaves the rest alone. A loop that skips while a
test holds ends at the first offset at which the test fails.
-/

namespace StatementEnd

open Text

namespace TextHost

/-- The host holds a text, which it keeps whole, and stands somewhere in it, its end
included. -/
def Over (host : TextHost) (text : String) : Prop :=
  host.reader.Over text

/-- The host after skipping up to an offset; at the position itself nothing is skipped. -/
def jump (host : TextHost) (stop : Nat) : TextHost :=
  if stop = host.pos then host else host.skipTo { host.reader with pos := stop }

variable {host : TextHost} {source text : String} {octet : UInt8}

/-- A host over what is kept of a source, with the starts of its ranges and a fresh token
at an offset. -/
def opened (source : String) (regions : List Nat) (offset : Nat) : TextHost :=
  ((ofString source).withRegions regions).seek offset

theorem over_opened (source : String) (regions : List Nat) (offset : Nat) :
    (opened source regions offset).Over (kept source) :=
  Reader.over_seek (Reader.over_ofString source) offset

theorem over_opened_of_fits (hfits : text.utf8ByteSize < UInt32.size) (regions : List Nat)
    (offset : Nat) : (opened text regions offset).Over text :=
  Reader.over_seek (Reader.over_of_fits hfits) offset

theorem pos_opened (source : String) (regions : List Nat) (offset : Nat) :
    (opened source regions offset).pos = min offset (octets (kept source)).length := by
  rw [length_octets]
  rfl

theorem opened_of_le {offset : Nat} (hle : offset ≤ (kept source).utf8ByteSize)
    (regions : List Nat) :
    opened source regions offset =
      { reader := { text := .pad (kept source), pos := offset }
        bounds := .fresh offset
        regions := .ofList regions } := by
  have hmin : min offset (PaddedText.pad (kept source)).length = offset := Nat.min_eq_left hle
  simp only [opened, seek, Reader.seek, withRegions, ofString, Reader.ofString,
    PaddedText.ofString, hmin]

/-!
## Jumps
-/

@[simp] theorem jump_pos (host : TextHost) : host.jump host.pos = host := by
  simp [jump]

theorem jump_of_ne {stop : Nat} (hne : stop ≠ host.pos) :
    host.jump stop = host.skipTo { host.reader with pos := stop } :=
  if_neg hne

@[simp] theorem pos_jump (host : TextHost) (stop : Nat) : (host.jump stop).pos = stop := by
  by_cases heq : stop = host.pos
  · rw [heq, jump_pos]
  · rw [jump_of_ne heq]
    rfl

@[simp] theorem regions_jump (host : TextHost) (stop : Nat) :
    (host.jump stop).regions = host.regions := by
  by_cases heq : stop = host.pos
  · rw [heq, jump_pos]
  · rw [jump_of_ne heq]
    rfl

@[simp] theorem text_jump (host : TextHost) (stop : Nat) :
    (host.jump stop).reader.text = host.reader.text := by
  by_cases heq : stop = host.pos
  · rw [heq, jump_pos]
  · rw [jump_of_ne heq]
    rfl

@[simp] theorem stop?_jump (host : TextHost) (stop : Nat) :
    (host.jump stop).bounds.stop? = host.bounds.stop? := by
  by_cases heq : stop = host.pos
  · rw [heq, jump_pos]
  · rw [jump_of_ne heq]
    rfl

theorem start_jump (host : TextHost) (stop : Nat) :
    (host.jump stop).bounds.start = if stop = host.pos then host.bounds.start else stop := by
  by_cases heq : stop = host.pos
  · rw [if_pos heq, heq, jump_pos]
  · rw [if_neg heq, jump_of_ne heq]
    rfl

theorem over_jump (h : host.Over text) {stop : Nat} (hlen : stop ≤ (octets text).length) :
    (host.jump stop).Over text := by
  refine ⟨?_, h.fits, ?_⟩
  · rw [text_jump, h.text_eq]
  · have hpos : (host.jump stop).reader.pos = stop := pos_jump host stop
    rw [hpos]
    exact hlen

theorem jump_jump {middle stop : Nat} (hfrom : host.pos ≤ middle) (hto : middle ≤ stop) :
    (host.jump middle).jump stop = host.jump stop := by
  by_cases hmiddle : middle = host.pos
  · rw [hmiddle, jump_pos]
  · by_cases hstop : stop = middle
    · have hself := jump_pos (host.jump middle)
      rw [pos_jump] at hself
      rw [hstop, hself]
    · have hne : stop ≠ (host.jump middle).pos := by simpa using hstop
      have hne' : stop ≠ host.pos := by omega
      rw [jump_of_ne hne, jump_of_ne hne', jump_of_ne hmiddle]
      rfl

/-- Skipping from a fresh token does what starting afresh there does. -/
theorem jump_eq_seek (h : host.Over text) (hfresh : host.bounds = .fresh host.pos) {stop : Nat}
    (hlen : stop ≤ (octets text).length) : host.jump stop = host.seek stop := by
  have hseek : host.seek stop =
      { host with reader := { host.reader with pos := stop }, bounds := .fresh stop } := by
    have hmin : min stop host.reader.text.length = stop := by
      rw [Reader.length_of_over h]
      exact Nat.min_eq_left hlen
    rw [seek, Reader.seek, hmin]
  rw [hseek]
  by_cases heq : stop = host.pos
  · rw [heq, jump_pos, ← hfresh]
    rfl
  · rw [jump_of_ne heq, skipTo, hfresh]
    rfl

/-!
## What a host shows
-/

theorem lookahead_eq_iff (h : host.Over text) {c : Char} (hplain : IsPlain c) :
    Host.lookahead host = c <-> (octets text)[host.pos]? = some c.toUInt8 :=
  Reader.char_eq_iff h hplain

theorem lookahead_mem_iff (h : host.Over text) {chars : List Char}
    (hchars : forall c, c ∈ chars -> IsPlain c) :
    Host.lookahead host ∈ chars <->
      exists octet, (octets text)[host.pos]? = some octet ∧
        exists c, c ∈ chars ∧ octet = c.toUInt8 := by
  constructor
  · intro hmem
    exact ⟨_, (lookahead_eq_iff h (hchars _ hmem)).mp rfl, _, hmem, rfl⟩
  · intro hoctet
    rcases hoctet with ⟨octet, hoctet, c, hmem, heq⟩
    rw [heq] at hoctet
    rw [(lookahead_eq_iff h (hchars c hmem)).mpr hoctet]
    exact hmem

theorem atEnd_iff (h : host.Over text) :
    Host.atEnd host = true <-> host.pos = (octets text).length :=
  Reader.atEnd_iff h

theorem atEnd_of_lt (h : host.Over text) (hlt : host.pos < (octets text).length) :
    Host.atEnd host = false := by
  apply Bool.eq_false_iff.mpr
  intro hend
  rw [(atEnd_iff h).mp hend] at hlt
  exact Nat.lt_irrefl _ hlt

theorem atEnd_jump_of_lt (h : host.Over text) {stop : Nat} (hlt : stop < (octets text).length) :
    Host.atEnd (host.jump stop) = false := by
  apply atEnd_of_lt (over_jump h (Nat.le_of_lt hlt))
  rw [pos_jump]
  exact hlt

theorem atEnd_jump_length (h : host.Over text) :
    Host.atEnd (host.jump (octets text).length) = true := by
  apply (atEnd_iff (over_jump h (Nat.le_refl _))).mpr
  rw [pos_jump]

theorem lookahead_jump_iff (h : host.Over text) {stop : Nat}
    (hlen : stop ≤ (octets text).length) {c : Char} (hplain : IsPlain c) :
    Host.lookahead (host.jump stop) = c <-> (octets text)[stop]? = some c.toUInt8 := by
  rw [lookahead_eq_iff (over_jump h hlen) hplain, pos_jump]

theorem atRegionStart_jump (host : TextHost) (stop : Nat) :
    Host.atRegionStart (host.jump stop) = host.regions.contains stop := by
  show (host.jump stop).regions.contains (host.jump stop).pos = _
  rw [regions_jump, pos_jump]

theorem atEnd_of_movable (h : host.Over text) (hmovable : Host.Movable host) :
    Host.atEnd host = false := by
  rcases hmovable with hshows | hend
  · apply Bool.eq_false_iff.mpr
    intro hend
    exact hshows (Reader.char_of_end h hend)
  · exact hend

/-!
## One skip
-/

theorem skip_of_not_atEnd (h : host.Over text) (hend : Host.atEnd host = false) :
    Host.skip host = host.jump host.reader.advance.pos := by
  have hlt := Reader.pos_lt_advance h hend
  have hne : host.reader.advance.pos ≠ host.pos := Ne.symm (Nat.ne_of_lt hlt)
  rw [jump_of_ne hne, ← Reader.advance_eq]
  rfl

theorem skip_of_octet (h : host.Over text) (hoctet : (octets text)[host.pos]? = some octet)
    (hascii : octet < 0x80) : Host.skip host = host.jump (host.pos + 1) := by
  rw [skip_of_not_atEnd h (Reader.atEnd_of_octet h hoctet),
    Reader.pos_advance_of_ascii h hoctet hascii]
  rfl

theorem lt_length_of_octet {offset : Nat} (hoctet : (octets text)[offset]? = some octet) :
    offset < (octets text).length :=
  (List.getElem?_eq_some_iff.mp hoctet).1

theorem skip_jump_of_octet (h : host.Over text) {middle : Nat} (hle : host.pos ≤ middle)
    (hoctet : (octets text)[middle]? = some octet) (hascii : octet < 0x80) :
    Host.skip (host.jump middle) = host.jump (middle + 1) := by
  have hlt := lt_length_of_octet hoctet
  have hover := over_jump h (Nat.le_of_lt hlt)
  have hthere : (octets text)[(host.jump middle).pos]? = some octet := by
    rw [pos_jump]
    exact hoctet
  rw [skip_of_octet hover hthere hascii, pos_jump,
    jump_jump hle (Nat.le_succ middle)]

/-- Hosts over a text come nearer to its end with every character. -/
theorem lively (text : String) : Lively fun host : TextHost => host.Over text where
  advance h := Reader.over_advance h
  skip h := Reader.over_advance h
  markEnd h := h
  advance_lt h hmovable := Reader.left_advance_lt h (atEnd_of_movable h hmovable)
  skip_lt h hmovable := Reader.left_advance_lt h (atEnd_of_movable h hmovable)
  skipLine := by
    intro host h
    refine ⟨host.skipTo host.reader.toLineEnd, rfl, Reader.over_toLineEnd h, ?_⟩
    exact Nat.sub_le_sub_left (Reader.lineEnd_toLineEnd h).le _

/-- What is done with a text leaves the ranges as they are. -/
theorem lively_regions (text : String) (regions : RegionStarts) :
    Lively fun host : TextHost => host.Over text ∧ host.regions = regions :=
  (lively text).withInvariant (fun _ h => h) (fun _ h => h) (fun _ h => h) (fun _ h => h)

/-!
## Loops
-/

/-- The offset that a test stops at, where a step from before it cannot jump over it. -/
theorem skipWhile_eq_jump (h : host.Over text) {test : TextHost -> Bool} {stop : Nat}
    (hle : host.pos ≤ stop) (hlen : stop ≤ (octets text).length)
    (hland : stop = host.pos ∨ CharBoundary text stop)
    (hrun : forall i, host.pos ≤ i -> i < stop -> test (host.jump i) = true)
    (hstop : test (host.jump stop) = false) :
    Host.skipWhile test host = .done (host.jump stop) () := by
  induction hn : stop - host.pos using Nat.strongRecOn generalizing host with
  | ind n ih =>
      rcases Nat.eq_or_lt_of_le hle with heq | hlt
      · rw [← heq, jump_pos] at hstop ⊢
        exact Host.skipWhile_of_not test hstop
      · have hend : Host.atEnd host = false := atEnd_of_lt h (Nat.lt_of_lt_of_le hlt hlen)
        have htest : test host = true := by
          have hfirst := hrun host.pos (Nat.le_refl _) hlt
          rw [jump_pos] at hfirst
          exact hfirst
        have hboundary : CharBoundary text stop := by
          rcases hland with heq | hboundary
          · exact absurd heq (Ne.symm (Nat.ne_of_lt hlt))
          · exact hboundary
        have hskip := skip_of_not_atEnd h hend
        have hnext : host.pos < host.reader.advance.pos := Reader.pos_lt_advance h hend
        have hland' : host.reader.advance.pos ≤ stop :=
          Reader.pos_advance_le_of_boundary h hboundary hlt
        rw [Host.skipWhile_of_moves test htest ((lively text).skip_lt h (Or.inr hend)), hskip]
        have hagain : (host.jump host.reader.advance.pos).jump stop = host.jump stop :=
          jump_jump (Nat.le_of_lt hnext) hland'
        rw [← hagain]
        apply ih (stop - host.reader.advance.pos) (by omega)
          (over_jump h (Nat.le_trans hland' hlen))
        · rw [pos_jump]
          exact hland'
        · exact Or.inr hboundary
        · intro i hfrom hto
          rw [pos_jump] at hfrom
          rw [jump_jump (Nat.le_of_lt hnext) hfrom]
          exact hrun i (Nat.le_trans (Nat.le_of_lt hnext) hfrom) hto
        · rw [hagain]
          exact hstop
        · rw [pos_jump]

/-!
## The end of a line
-/

theorem skipTo_eq_jump (hstart : host.bounds.start = host.pos) (stop : Nat) :
    host.skipTo { host.reader with pos := stop } = host.jump stop := by
  by_cases heq : stop = host.pos
  · rw [heq, jump_pos, skipTo, TokenBounds.startAt]
    show { host with bounds := { host.bounds with start := host.pos } } = host
    rw [← hstart]
  · rw [jump_of_ne heq]

theorem skipLine_of_start (h : host.Over text) (hstart : host.bounds.start = host.pos)
    {stop : Nat} (hstop : Reader.LineEnd (octets text) host.pos stop) :
    LineHost.skipLine host = .done (host.jump stop) () := by
  have hfound := Reader.lineEnd_unique (Reader.lineEnd_toLineEnd h) hstop
  rw [← skipTo_eq_jump hstart, ← hfound]
  rfl

/-- The search for a newline after something was skipped. -/
theorem skipLine_eq_jump (h : host.Over text) {middle stop : Nat} (hlt : host.pos < middle)
    (hstop : Reader.LineEnd (octets text) middle stop) :
    LineHost.skipLine (host.jump middle) = .done (host.jump stop) () := by
  have hover := over_jump h (Nat.le_trans hstop.le hstop.le_length)
  have hstart : (host.jump middle).bounds.start = (host.jump middle).pos := by
    rw [start_jump, if_neg (Nat.ne_of_gt hlt), pos_jump]
  rw [← jump_jump (Nat.le_of_lt hlt) hstop.le]
  apply skipLine_of_start hover hstart
  rw [pos_jump]
  exact hstop

/-- The walk over the characters of a line stops where the line ends. -/
theorem stepToLineEnd_eq_jump (h : host.Over text) {stop : Nat}
    (hstop : Reader.LineEnd (octets text) host.pos stop) :
    Host.stepToLineEnd host = .done (host.jump stop) () := by
  have hboundary := Reader.boundary_of_lineEnd hstop
  rw [Host.stepToLineEnd]
  apply skipWhile_eq_jump h hstop.le hstop.le_length (Or.inr hboundary)
  · intro i hfrom hto
    have hlt := Nat.lt_of_lt_of_le hto hstop.le_length
    have hother : (Host.lookahead (host.jump i) != '\n') = true := by
      rw [bne_iff_ne, ne_eq, lookahead_jump_iff h (Nat.le_of_lt hlt) (by decide)]
      exact hstop.no_newline i hfrom hto
    rw [atEnd_jump_of_lt h hlt, hother]
    rfl
  · rcases hstop.newline with hend | hnewline
    · rw [hend, atEnd_jump_length h]
      rfl
    · have hthere : Host.lookahead (host.jump stop) = '\n' :=
        (lookahead_jump_iff h hstop.le_length (by decide)).mpr hnewline
      rw [hthere]
      simp

/-- Where nothing was consumed since the token started, the search for the newline does
what the walk does. -/
theorem skipLine_eq_stepToLineEnd (h : host.Over text) (hstart : host.bounds.start = host.pos) :
    LineHost.skipLine host = Host.stepToLineEnd host := by
  have hspec := Reader.lineEnd_toLineEnd h
  rw [skipLine_of_start h hstart hspec, stepToLineEnd_eq_jump h hspec]

end TextHost
end StatementEnd
