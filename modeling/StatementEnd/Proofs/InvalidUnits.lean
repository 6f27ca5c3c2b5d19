import Mathlib.Data.List.Forall2
import StatementEnd.Proofs.UnitLockstep

/-!
# Units that are no scalar values

A host of units may hand out numbers that no character has: negative ones, surrogates and
such beyond U+10FFFF. A routine sees U+FFFD there, and a host that cannot tell its end takes
none of them for zero. So everything goes as on the host that holds U+FFFD in their place.
-/

namespace StatementEnd

open Outcome (Agrees)

namespace UnitHost

/-- A number that is no Unicode scalar value. -/
def NoScalar (unit : Int) : Prop :=
  unit < 0 ∨ (0xD800 ≤ unit ∧ unit ≤ 0xDFFF) ∨ 0x10FFFF < unit

instance : DecidablePred NoScalar :=
  fun _ => inferInstanceAs (Decidable (_ ∨ _))

/-- A number, with U+FFFD in place of one that is no scalar value. -/
def scalarOf (unit : Int) : Int :=
  if NoScalar unit then 0xFFFD else unit

/-- The host with U+FFFD in place of all numbers that are no scalar values, those among the
units and the one it shows. -/
def overScalars (host : UnitHost) : UnitHost :=
  { host with units := host.units.map scalarOf, raw := scalarOf host.raw }

/-!
## One unit
-/

/-- What is no scalar value is seen as U+FFFD. -/
theorem charOf_of_noScalar {unit : Int} (h : NoScalar unit) : charOf unit = '\uFFFD' := by
  apply dif_neg
  intro hvalid
  rcases hvalid with ⟨hle, hvalid⟩
  have hvalue := Int.toNat_of_nonneg hle
  rcases h with hneg | ⟨hfrom, hto⟩ | hlarge
  · exact absurd hle (Int.not_le_of_gt hneg)
  · rcases hvalid with hlow | ⟨hhigh, _⟩
    · omega
    · omega
  · rcases hvalid with hlow | ⟨_, hhigh⟩
    · omega
    · omega

theorem charOf_scalarOf (unit : Int) : charOf (scalarOf unit) = charOf unit := by
  rw [scalarOf]
  split
  · next hnone =>
      rw [charOf_of_noScalar hnone]
      rfl
  · rfl

/-- No number but zero is replaced by zero, and zero is kept. -/
theorem scalarOf_eq_zero_iff {unit : Int} : scalarOf unit = 0 <-> unit = 0 := by
  rw [scalarOf]
  split
  · next hnone =>
      apply iff_of_false (by decide)
      intro hzero
      rw [hzero] at hnone
      exact absurd hnone (by decide)
  · exact Iff.rfl

theorem unitAt_map_scalarOf (units : Array Int) (index : Nat) :
    unitAt (units.map scalarOf) index = scalarOf (unitAt units index) := by
  rw [unitAt, unitAt, Array.getD_eq_getD_getElem?, Array.getD_eq_getD_getElem?,
    Array.getElem?_map]
  cases units[index]? with
  | none => rfl
  | some unit => rfl

/-!
## Each operation of the host
-/

theorem atEnd_overScalars (host : UnitHost) : host.overScalars.atEnd = host.atEnd := by
  have hraw : (scalarOf host.raw == 0) = (host.raw == 0) := by
    rw [Bool.eq_iff_iff, beq_iff_eq, beq_iff_eq]
    exact scalarOf_eq_zero_iff
  simp only [atEnd, overScalars, Array.size_map, hraw]

theorem nextPos_overScalars (host : UnitHost) : host.overScalars.nextPos = host.nextPos := by
  simp only [nextPos, overScalars, Array.size_map]

theorem sync_overScalars (host : UnitHost) : host.overScalars.sync = host.sync.overScalars := by
  simp only [sync, overScalars, unitAt_map_scalarOf]

theorem advance_overScalars (host : UnitHost) :
    host.overScalars.advance = host.advance.overScalars := by
  rw [advance, advance, nextPos_overScalars]
  show (if host.abilities.advance = true then _ else _) = _
  split
  · exact congrArg (UnitHost.log · .advance)
      (sync_overScalars { host with pos := host.nextPos })
  · rfl

theorem skip_overScalars (host : UnitHost) :
    host.overScalars.skip = host.skip.overScalars := by
  rw [skip, skip, nextPos_overScalars]
  show (if host.abilities.advance = true then _ else _) = _
  split
  · exact congrArg (UnitHost.log · .skip)
      (sync_overScalars
        { host with pos := host.nextPos, bounds := host.bounds.startAt host.nextPos })
  · rfl

theorem markEnd_overScalars (host : UnitHost) :
    host.overScalars.markEnd = host.markEnd.overScalars := by
  rw [markEnd, markEnd]
  show (if host.abilities.markEnd = true then _ else _) = _
  split
  · rfl
  · rfl

/-!
## Both hosts side by side
-/

/-- A host that can move, and the same host over scalar values. -/
structure OverScalars (a b : UnitHost) : Prop where
  canAdvance : a.CanAdvance
  other : b = a.overScalars

theorem overScalars_lockstep : UnitLockstep OverScalars where
  on_left h := h.canAdvance
  on_right h := by
    rw [h.other]
    exact h.canAdvance
  lookahead h := by
    rw [h.other]
    exact (charOf_scalarOf _).symm
  atEnd h := by
    rw [h.other]
    exact (atEnd_overScalars _).symm
  atRegionStart h := by
    rw [h.other]
    rfl
  advance h _ := by
    rw [h.other]
    exact ⟨canAdvance_advance h.canAdvance, advance_overScalars _⟩
  skip h _ := by
    rw [h.other]
    exact ⟨canAdvance_skip h.canAdvance, skip_overScalars _⟩
  markEnd h := by
    rw [h.other]
    exact ⟨canAdvance_markEnd h.canAdvance, markEnd_overScalars _⟩
  clearCalls h := by
    rw [h.other]
    exact ⟨h.canAdvance, rfl⟩
  setSymbol h _ := by
    rw [h.other]
    exact ⟨h.canAdvance, rfl⟩

end UnitHost

namespace UnitSession

variable {session : UnitSession}

/-- The session on the host over scalar values. -/
def overScalars (session : UnitSession) : UnitSession :=
  { session with host := session.host.overScalars }

theorem step_overScalars (hadvance : session.host.CanAdvance) {step : UnitStep}
    (hreads : step.Reads) :
    Agrees (SessionsRelated UnitHost.OverScalars) (session.step step)
      (session.overScalars.step step) :=
  UnitHost.overScalars_lockstep.step (s := session) (t := session.overScalars)
    ⟨⟨hadvance, rfl⟩, rfl⟩ hreads

end UnitSession

/-- One step had the same outcome on a session and on the one over scalar values, neither was
cut off, and what can be seen of the hosts is the same up to the numbers themselves. -/
structure SameOverScalars (s t : Outcome UnitSession UnitReply) : Prop where
  result : s.result = t.result
  events : s.events = t.events
  settled : s.stalled = false ∧ t.stalled = false
  callLog : s.host.host.callLog = t.host.host.callLog
  pos : s.host.host.pos = t.host.host.pos
  bounds : s.host.host.bounds = t.host.host.bounds
  span : s.host.host.span = t.host.host.span
  symbol : s.host.host.symbol = t.host.host.symbol
  session : t.host = s.host.overScalars

theorem sameOverScalars_of_agrees {s t : Outcome UnitSession UnitReply}
    (h : Agrees (SessionsRelated UnitHost.OverScalars) s t) : SameOverScalars s t := by
  have hsession : t.host = s.host.overScalars := by
    have hhost := h.host.hosts.other
    have hslot := h.host.slot
    generalize t.host = after at hhost hslot
    cases after with
    | mk slot host =>
        rw [UnitSession.overScalars, hslot, ← hhost]
  refine ⟨h.result, h.events, h.settled, ?_, ?_, ?_, ?_, ?_, hsession⟩
  all_goals
    rw [hsession]
    rfl

/-- Every step of a run that reads goes alike on the session over scalar values. -/
theorem UnitSession.run_overScalars {session : UnitSession} {steps : List UnitStep}
    (hreads : forall step, step ∈ steps -> step.Reads) (hadvance : session.host.CanAdvance) :
    List.Forall₂ SameOverScalars (session.run steps) (session.overScalars.run steps) := by
  induction steps generalizing session with
  | nil => exact List.Forall₂.nil
  | cons step rest ih =>
      rw [List.forall_mem_cons] at hreads
      have hagrees := step_overScalars hadvance hreads.1
      have hsame := sameOverScalars_of_agrees hagrees
      have hrest := ih hreads.2 hagrees.host.hosts.canAdvance
      rw [← hsame.session] at hrest
      exact List.Forall₂.cons hsame hrest

/-- Numbers that are no scalar values are read exactly as U+FFFD, among the units and where
the host shows one. -/
theorem invalid_units_read_as_replacement (session : UnitSession) {step : UnitStep}
    (hreads : step.Reads) (hadvance : session.host.CanAdvance) :
    SameOverScalars (session.step step) (session.overScalars.step step) :=
  sameOverScalars_of_agrees (session.step_overScalars hadvance hreads)

theorem invalid_units_read_as_replacement_in_comment :
    UnitStep.comment.Reads ∧
      (UnitSession.ofUnits #[47, 42, -1, 0xD800, 0x110000, 42, 47]).host.CanAdvance ∧
      (UnitSession.ofUnits #[47, 42, -1, 0xD800, 0x110000, 42, 47]).overScalars =
        UnitSession.ofUnits #[47, 42, 0xFFFD, 0xFFFD, 0xFFFD, 42, 47] ∧
      SameOverScalars
        ((UnitSession.ofUnits #[47, 42, -1, 0xD800, 0x110000, 42, 47]).step .comment)
        ((UnitSession.ofUnits #[47, 42, 0xFFFD, 0xFFFD, 0xFFFD, 42, 47]).step .comment) := by
  have hother : (UnitSession.ofUnits #[47, 42, -1, 0xD800, 0x110000, 42, 47]).overScalars =
      UnitSession.ofUnits #[47, 42, 0xFFFD, 0xFFFD, 0xFFFD, 42, 47] :=
    congrArg (UnitSession.mk none) (by decide +kernel)
  have hsame := @invalid_units_read_as_replacement
    (.ofUnits #[47, 42, -1, 0xD800, 0x110000, 42, 47]) .comment trivial rfl
  rw [hother] at hsame
  exact ⟨trivial, rfl, hother, hsame⟩

end StatementEnd
