import StatementEnd.Proofs.UnitLockstep

/-!
# A host that cannot tell its end

Such a host is at its end where the unit ahead is zero. What reads it never moves it from
there, so the units behind the first zero are never seen: everything goes as on a host that
can tell its end and whose units end before that zero.
-/

namespace StatementEnd

open Outcome (Agrees)

namespace UnitHost

/-- The index of the first zero at or behind a position, or of the end where there is none. -/
def zeroFrom (units : Array Int) (pos : Nat) : Nat :=
  pos + (units.toList.drop pos).findIdx (· == 0)

/-- The units before the first zero at or behind a position. -/
def cutAtZero (units : Array Int) (pos : Nat) : Array Int :=
  units.extract 0 (zeroFrom units pos)

/-- The host without the operation that tells its end. -/
def withoutEnd (host : UnitHost) : UnitHost :=
  { host with abilities := host.abilities.set false .atEnd }

/-- The host with other units, and with the operation that tells its end. -/
def endedBy (host : UnitHost) (units : Array Int) : UnitHost :=
  { host with units := units, abilities := host.abilities.set true .atEnd }

variable {units ended : Array Int} {pos stop i : Nat} {a b : UnitHost}

/-!
## The first zero
-/

/-- From a position up to a stop two lists of units are the same and hold no zero; there one
of them goes on with a zero, or ends, and the other one ends. -/
structure ZeroAhead (units ended : Array Int) (pos stop : Nat) : Prop where
  le : pos ≤ stop
  zero : unitAt units stop = 0
  same : forall i, pos ≤ i -> i < stop ->
    unitAt units i ≠ 0 ∧ unitAt ended i = unitAt units i
  size_le : ended.size ≤ stop

theorem unitAt_eq_drop (hle : pos ≤ i) :
    unitAt units i = (units.toList.drop pos)[i - pos]?.getD 0 := by
  rw [unitAt, Array.getD_eq_getD_getElem?, List.getElem?_drop, Nat.add_sub_cancel' hle,
    Array.getElem?_toList]

theorem unitAt_cutAtZero (hlt : i < zeroFrom units pos) :
    unitAt (cutAtZero units pos) i = unitAt units i := by
  rw [unitAt, unitAt, cutAtZero, Array.getD_eq_getD_getElem?, Array.getD_eq_getD_getElem?,
    Array.getElem?_extract, Nat.zero_add]
  split
  · rfl
  · next hout =>
      rw [Array.getElem?_eq_none]
      omega

theorem zeroAhead_cutAtZero (units : Array Int) (pos : Nat) :
    ZeroAhead units (cutAtZero units pos) pos (zeroFrom units pos) where
  le := Nat.le_add_right _ _
  zero := by
    have hle : pos ≤ zeroFrom units pos := Nat.le_add_right _ _
    rw [unitAt_eq_drop hle, zeroFrom, Nat.add_sub_cancel_left]
    generalize units.toList.drop pos = rest
    cases hthere : rest[rest.findIdx (· == 0)]? with
    | none => rfl
    | some unit =>
        rcases List.getElem?_eq_some_iff.mp hthere with ⟨hlt, hget⟩
        have hzero := @List.findIdx_getElem _ (· == (0 : Int)) rest hlt
        rw [hget, beq_iff_eq] at hzero
        exact hzero
  same := by
    intro i hfrom hto
    refine ⟨?_, unitAt_cutAtZero hto⟩
    rw [unitAt_eq_drop hfrom]
    have hbefore : i - pos < (units.toList.drop pos).findIdx (· == 0) :=
      Nat.sub_lt_left_of_lt_add hfrom hto
    generalize units.toList.drop pos = rest at hbefore
    have hother := List.not_of_lt_findIdx hbefore
    rw [beq_eq_false_iff_ne] at hother
    rw [List.getElem?_eq_getElem (Nat.lt_of_lt_of_le hbefore List.findIdx_le_length)]
    exact hother
  size_le := by
    rw [cutAtZero, Array.size_extract]
    exact Nat.le_trans (Nat.sub_le _ _) (Nat.min_le_left _ _)

namespace ZeroAhead

theorem unitAt_eq (h : ZeroAhead units ended pos stop) (hfrom : pos ≤ i) (hto : i ≤ stop) :
    unitAt ended i = unitAt units i := by
  rcases Nat.eq_or_lt_of_le hto with heq | hlt
  · rw [heq, h.zero, unitAt_of_le h.size_le]
  · exact (h.same i hfrom hlt).2

/-- Before the stop neither list has ended. -/
theorem lt_sizes (h : ZeroAhead units ended pos stop) (hlt : pos < stop) :
    pos < units.size ∧ pos < ended.size := by
  rcases h.same pos (Nat.le_refl _) hlt with ⟨hshows, hsame⟩
  constructor
  · apply Nat.lt_of_not_le
    intro hend
    exact hshows (unitAt_of_le hend)
  · apply Nat.lt_of_not_le
    intro hend
    rw [unitAt_of_le hend] at hsame
    exact hshows hsame.symm

theorem succ (h : ZeroAhead units ended pos stop) (hlt : pos < stop) :
    ZeroAhead units ended (pos + 1) stop where
  le := hlt
  zero := h.zero
  same i hfrom := h.same i (Nat.le_of_succ_le hfrom)
  size_le := h.size_le

end ZeroAhead

/-!
## Both hosts side by side
-/

/-- A host that cannot tell its end with a zero ahead of it, and the host that ends there. -/
structure EndsAlike (ended : Array Int) (stop : Nat) (a b : UnitHost) : Prop where
  canAdvance : a.CanAdvance
  synced : a.Synced
  blind : a.abilities.atEnd = false
  ahead : ZeroAhead a.units ended a.pos stop
  other : b = a.endedBy ended

namespace EndsAlike

theorem atEnd (h : EndsAlike ended stop a b) : Host.atEnd a = Host.atEnd b := by
  have hleft : Host.atEnd a = (a.raw == 0) := by
    show a.atEnd = _
    rw [UnitHost.atEnd, h.blind]
    rfl
  have hright : Host.atEnd b = decide (ended.size ≤ a.pos) := by
    rw [h.other]
    rfl
  rw [hleft, hright, h.synced, Bool.eq_iff_iff, beq_iff_eq, decide_eq_true_eq]
  -- at the zero both are at their end, and before it neither is
  rcases Nat.eq_or_lt_of_le h.ahead.le with hstop | hlt
  · rw [hstop]
    exact iff_of_true h.ahead.zero h.ahead.size_le
  · apply iff_of_false (h.ahead.same _ (Nat.le_refl _) hlt).1
    exact Nat.not_le_of_lt (h.ahead.lt_sizes hlt).2

/-- No host is moved at the zero. -/
theorem lt_stop (h : EndsAlike ended stop a b) (hmovable : Host.Movable a) : a.pos < stop := by
  apply Nat.lt_of_le_of_ne h.ahead.le
  intro hstop
  -- a host is only moved before its end, and a blind one is at its end at a zero
  have hend := (before_end h.synced hmovable).1
  have hraw : a.raw = 0 := by rw [h.synced, hstop, h.ahead.zero]
  change a.atEnd = false at hend
  simp [UnitHost.atEnd, h.blind, hraw] at hend

theorem nextPos (h : EndsAlike ended stop a b) (hmovable : Host.Movable a) :
    a.nextPos = a.pos + 1 ∧ (a.endedBy ended).nextPos = a.pos + 1 := by
  rcases h.ahead.lt_sizes (h.lt_stop hmovable) with ⟨hunits, hended⟩
  exact ⟨if_pos hunits, if_pos hended⟩

/-- A host that was moved by one unit, with any token and log. -/
theorem moved (h : EndsAlike ended stop a b) (hmovable : Host.Movable a) (bounds : TokenBounds)
    (calls : List HostCall) :
    EndsAlike ended stop
      (sync { a with pos := a.pos + 1, bounds := bounds, calls := calls })
      (sync { a.endedBy ended with pos := a.pos + 1, bounds := bounds, calls := calls }) where
  canAdvance := h.canAdvance
  synced := rfl
  blind := h.blind
  ahead := h.ahead.succ (h.lt_stop hmovable)
  other := by
    have hraw : unitAt ended (a.pos + 1) = unitAt a.units (a.pos + 1) :=
      h.ahead.unitAt_eq (Nat.le_succ _) (h.lt_stop hmovable)
    simp only [sync, endedBy, hraw]

theorem advance (h : EndsAlike ended stop a b) (hmovable : Host.Movable a) :
    EndsAlike ended stop (Host.advance a) (Host.advance b) := by
  show EndsAlike ended stop a.advance b.advance
  rw [h.other, advance_of_canAdvance h.canAdvance,
    @advance_of_canAdvance (a.endedBy ended) h.canAdvance, (h.nextPos hmovable).1,
    (h.nextPos hmovable).2]
  exact h.moved hmovable a.bounds (.advance :: a.calls)

theorem skip (h : EndsAlike ended stop a b) (hmovable : Host.Movable a) :
    EndsAlike ended stop (Host.skip a) (Host.skip b) := by
  show EndsAlike ended stop a.skip b.skip
  rw [h.other, skip_of_canAdvance h.canAdvance,
    @skip_of_canAdvance (a.endedBy ended) h.canAdvance, (h.nextPos hmovable).1,
    (h.nextPos hmovable).2]
  exact h.moved hmovable (a.bounds.startAt (a.pos + 1)) (.skip :: a.calls)

theorem markEnd (h : EndsAlike ended stop a b) :
    EndsAlike ended stop (Host.markEnd a) (Host.markEnd b) := by
  have hother : b.markEnd = a.markEnd.endedBy ended := by
    rw [h.other, UnitHost.markEnd, UnitHost.markEnd]
    show (if a.abilities.markEnd = true then _ else _) = _
    split
    · rfl
    · rfl
  have hkept : exists bounds log, a.markEnd = { a with bounds := bounds, calls := log } := by
    rcases perform_cases .markEnd a with hkept | ⟨hconsumes, _⟩
    · exact hkept
    · cases hconsumes
  rcases hkept with ⟨bounds, log, heq⟩
  have hleft : EndsAlike ended stop a.markEnd (a.markEnd.endedBy ended) := by
    rw [heq]
    exact ⟨h.canAdvance, h.synced, h.blind, h.ahead, rfl⟩
  rw [← hother] at hleft
  exact hleft

theorem clearCalls (h : EndsAlike ended stop a b) :
    EndsAlike ended stop a.clearCalls b.clearCalls := by
  rw [h.other]
  exact ⟨h.canAdvance, h.synced, h.blind, h.ahead, rfl⟩

theorem setSymbol (h : EndsAlike ended stop a b) (kind : TokenKind) :
    EndsAlike ended stop (a.setSymbol kind) (b.setSymbol kind) := by
  rw [h.other]
  exact ⟨h.canAdvance, h.synced, h.blind, h.ahead, rfl⟩

end EndsAlike

theorem endsAlike_lockstep (ended : Array Int) (stop : Nat) :
    UnitLockstep (EndsAlike ended stop) where
  on_left h := h.canAdvance
  on_right h := by
    rw [h.other]
    exact h.canAdvance
  lookahead h := by
    rw [h.other]
    rfl
  atEnd h := h.atEnd
  atRegionStart h := by
    rw [h.other]
    rfl
  advance h := h.advance
  skip h := h.skip
  markEnd h := h.markEnd
  clearCalls h := h.clearCalls
  setSymbol h := h.setSymbol

theorem endsAlike_cutAtZero {host : UnitHost} (hadvance : host.CanAdvance)
    (hsynced : host.Synced) :
    EndsAlike (cutAtZero host.units host.pos) (zeroFrom host.units host.pos) host.withoutEnd
      (host.endedBy (cutAtZero host.units host.pos)) where
  canAdvance := hadvance
  synced := hsynced
  blind := rfl
  ahead := zeroAhead_cutAtZero host.units host.pos
  other := rfl

end UnitHost

/-- One step had the same outcome on two sessions, neither was cut off, and what can be seen
of the hosts is the same. -/
structure SameReading (s t : Outcome UnitSession UnitReply) : Prop where
  result : s.result = t.result
  events : s.events = t.events
  settled : s.stalled = false ∧ t.stalled = false
  callLog : s.host.host.callLog = t.host.host.callLog
  pos : s.host.host.pos = t.host.host.pos
  raw : s.host.host.raw = t.host.host.raw
  bounds : s.host.host.bounds = t.host.host.bounds
  span : s.host.host.span = t.host.host.span
  symbol : s.host.host.symbol = t.host.host.symbol

/-- Without the operation that tells its end, a host that shows the unit at its position is
read as if its units ended at the first zero from there on. -/
theorem blind_host_ends_at_zero (session : UnitSession) {step : UnitStep}
    (hreads : step.Reads) (hadvance : session.host.CanAdvance)
    (hsynced : session.host.Synced) :
    SameReading ({ session with host := session.host.withoutEnd }.step step)
      ({ session with
        host := session.host.endedBy
          (UnitHost.cutAtZero session.host.units session.host.pos) }.step step) := by
  have hhosts := UnitHost.endsAlike_cutAtZero hadvance hsynced
  have hagrees := (UnitHost.endsAlike_lockstep _ _).step
    (s := { session with host := session.host.withoutEnd })
    (t := { session with
      host := session.host.endedBy
        (UnitHost.cutAtZero session.host.units session.host.pos) }) ⟨hhosts, rfl⟩ hreads
  have hother := hagrees.host.hosts.other
  refine ⟨hagrees.result, hagrees.events, hagrees.settled, ?_, ?_, ?_, ?_, ?_, ?_⟩
  all_goals
    rw [hother]
    rfl

theorem blind_host_ends_at_zero_in_comment :
    UnitStep.comment.Reads ∧
      (UnitSession.ofUnits #[47, 42, 0, 42, 47]).host.CanAdvance ∧
      (UnitSession.ofUnits #[47, 42, 0, 42, 47]).host.Synced ∧
      UnitHost.cutAtZero #[47, 42, 0, 42, 47] 0 = #[47, 42] ∧
      SameReading
        (UnitSession.step
          { host := (UnitHost.ofUnits #[47, 42, 0, 42, 47]).withoutEnd } .comment)
        (UnitSession.step
          { host := (UnitHost.ofUnits #[47, 42, 0, 42, 47]).endedBy #[47, 42] } .comment) := by
  have hcut : UnitHost.cutAtZero #[47, 42, 0, 42, 47] 0 = #[47, 42] := by decide +kernel
  have hsame := @blind_host_ends_at_zero (.ofUnits #[47, 42, 0, 42, 47]) .comment trivial rfl
    rfl
  have hhost : (UnitSession.ofUnits #[47, 42, 0, 42, 47]).host =
      .ofUnits #[47, 42, 0, 42, 47] := rfl
  rw [hhost] at hsame
  have hunits : UnitHost.cutAtZero (UnitHost.ofUnits #[47, 42, 0, 42, 47]).units
      (UnitHost.ofUnits #[47, 42, 0, 42, 47]).pos = #[47, 42] := hcut
  rw [hunits] at hsame
  exact ⟨trivial, rfl, rfl, hcut, hsame⟩

end StatementEnd
