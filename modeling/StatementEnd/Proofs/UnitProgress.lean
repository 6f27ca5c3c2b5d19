import StatementEnd.Host.Units
import StatementEnd.Proofs.Progress

/-!
# Unit hosts that move

A unit host that can advance comes nearer to its end with every character, also while
its unit ahead was overwritten: the first step brings the unit up to date, and from then
on every step moves by one unit.
-/

namespace StatementEnd
namespace UnitHost

variable {host : UnitHost}

/-- The host has the operation that moves it. -/
def CanAdvance (host : UnitHost) : Prop :=
  host.abilities.advance = true

theorem advance_of_canAdvance (h : host.CanAdvance) :
    host.advance = (sync { host with pos := host.nextPos }).log .advance :=
  if_pos h

theorem skip_of_canAdvance (h : host.CanAdvance) :
    host.skip = (sync { host with
      pos := host.nextPos, bounds := host.bounds.startAt host.nextPos }).log .skip :=
  if_pos h

theorem canAdvance_advance (h : host.CanAdvance) : host.advance.CanAdvance := by
  rw [advance_of_canAdvance h]
  exact h

theorem canAdvance_skip (h : host.CanAdvance) : host.skip.CanAdvance := by
  rw [skip_of_canAdvance h]
  exact h

theorem canAdvance_markEnd (h : host.CanAdvance) : host.markEnd.CanAdvance := by
  unfold markEnd
  split
  · exact h
  · exact h

theorem unitAt_of_le {units : Array Int} {index : Nat} (h : units.size ≤ index) :
    unitAt units index = 0 := by
  simp [unitAt, h]

theorem charOf_zero : charOf 0 = '\x00' := by decide

/-- At the end of its units a movable host shows a unit that is out of date. -/
theorem raw_ne_of_movable (hmovable : Host.Movable host) (hend : host.units.size ≤ host.pos) :
    host.raw ≠ unitAt host.units host.pos := by
  rw [unitAt_of_le hend]
  intro hzero
  rcases hmovable with hshows | hatEnd
  · apply hshows
    show charOf host.raw = '\x00'
    rw [hzero, charOf_zero]
  · change host.atEnd = false at hatEnd
    simp [atEnd, hend, hzero] at hatEnd

theorem left_of_movable (hmovable : Host.Movable host) :
    host.units.size - host.nextPos < host.remaining := by
  unfold nextPos remaining
  by_cases hlt : host.pos < host.units.size
  · rw [if_pos hlt]
    omega
  · rw [if_neg hlt, if_neg (raw_ne_of_movable hmovable (Nat.le_of_not_lt hlt))]
    omega

theorem remaining_of_synced (h : host.raw = unitAt host.units host.pos) :
    host.remaining = host.units.size - host.pos := by
  rw [remaining, if_pos h, Nat.add_zero]

theorem advance_lt (h : host.CanAdvance) (hmovable : Host.Movable host) :
    host.advance.remaining < host.remaining := by
  rw [advance_of_canAdvance h, remaining_of_synced rfl]
  exact left_of_movable hmovable

theorem skip_lt (h : host.CanAdvance) (hmovable : Host.Movable host) :
    host.skip.remaining < host.remaining := by
  rw [skip_of_canAdvance h, remaining_of_synced rfl]
  exact left_of_movable hmovable

theorem lively : Lively CanAdvance where
  advance := canAdvance_advance
  skip := canAdvance_skip
  markEnd := canAdvance_markEnd
  advance_lt := advance_lt
  skip_lt := skip_lt
  skipLine := by
    intro host h
    have hstep : forall {host : UnitHost}, host.CanAdvance ->
        (!Host.atEnd host && Host.lookahead host != '\n') = true ->
        (Host.skip host).CanAdvance ∧ Host.remaining (Host.skip host) < Host.remaining host := by
      intro host hhost htest
      simp only [Bool.and_eq_true, Bool.not_eq_true'] at htest
      exact ⟨canAdvance_skip hhost, skip_lt hhost (Or.inr htest.1)⟩
    rcases Host.skipWhile_done hstep h with ⟨after, hrun, hafter, _, hle⟩
    exact ⟨after, hrun, hafter, hle⟩

end UnitHost
end StatementEnd
