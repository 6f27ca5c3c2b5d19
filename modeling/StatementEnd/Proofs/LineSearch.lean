import StatementEnd.Proofs.Operations
import StatementEnd.Proofs.Walk

/-!
# Searching for the end of a line

A host over a text finds the end of a line by its newline byte, without a look at the
characters before it. A walk over these characters comes to the same place, from any offset
at all: a newline byte never lies inside a character, and no step jumps over one. The two
differ in the start of the token alone, and only where there is nothing to skip. Routines
search for the end of a line right behind a slash that they skipped, where that difference
cannot show.
-/

namespace StatementEnd

open Text

/-!
## Walking instead of searching
-/

/-- A host that walks to the end of a line one character at a time, whatever way of its own
it has. -/
def Walking (σ : Type) : Type := σ

instance {σ : Type} [host : LineHost σ] : LineHost (Walking σ) :=
  @LineHost.stepwise σ host.toHost

/-- Runs a routine on a host that walks to the end of a line. -/
def Routine.runWalking {σ : Type} [LineHost σ] (routine : Routine) (host : σ) :
    Outcome σ Verdict :=
  @Routine.run (Walking σ) _ routine host

theorem Outcome.Agrees.eq {σ α : Type} {P : σ -> Prop} {a b : Outcome σ α}
    (h : Agrees (fun left right => P left ∧ left = right) a b) : a = b := by
  rcases a with ⟨result, host, events, stalled⟩
  rcases b with ⟨result', host', events', stalled'⟩
  rcases h with ⟨hresult, ⟨_, hhost⟩, hevents, hleft, hright⟩
  simp_all

namespace Lively

variable {σ : Type} [LineHost σ] {P : σ -> Prop}

theorem walking (hP : Lively P) : @Lively (Walking σ) _ P where
  advance := hP.advance
  skip := hP.skip
  markEnd := hP.markEnd
  advance_lt := hP.advance_lt
  skip_lt := hP.skip_lt
  skipLine := by
    intro host h
    have hmoves : forall {host : σ}, P host ->
        (!Host.atEnd host && Host.lookahead host != '\n') = true -> Host.Movable host := by
      intro host _ htest
      rw [Bool.and_eq_true, Bool.not_eq_true'] at htest
      exact Or.inr htest.1
    rcases hP.skipWhile_done hmoves h with ⟨after, hrun, hafter, _, hle⟩
    exact ⟨after, hrun, hafter, hle⟩

/-- Where searching behind a skip does what walking does, every routine does the same
either way. -/
theorem runWalking_eq_run (hP : Lively P)
    (hline : forall {host : σ}, P host ->
      LineHost.skipLine (Host.skip host) = Host.stepToLineEnd (Host.skip host))
    {host : σ} (h : P host) (routine : Routine) :
    routine.runWalking host = routine.run host := by
  have hself := hP.lockstep
  have hwalking : @Lockstep (Walking σ) σ _ _ P P fun a b => P a ∧ a = b :=
    { left := hP.walking
      right := hP
      on_left := hself.on_left
      on_right := hself.on_right
      lookahead := hself.lookahead
      atEnd := hself.atEnd
      atRegionStart := hself.atRegionStart
      advance := hself.advance
      skip := hself.skip
      markEnd := hself.markEnd
      skipLine := by
        intro a b hab
        have hsame := hself.skipLine hab
        have hwalk := hline (hself.on_left hab)
        rw [hwalk] at hsame
        exact hsame }
  exact Outcome.Agrees.eq (hwalking.run ⟨h, rfl⟩ routine)

end Lively

namespace TextHost

variable {host after : TextHost} {text : String} {count : Nat}

/-!
## The characters that a walk skips
-/

theorem over_skip (h : host.Over text) : (Host.skip host).Over text :=
  Reader.over_advance h

theorem pos_le_of_skips (h : host.Over text)
    (hskips : Performs host (List.replicate count .skip) after) : host.pos ≤ after.pos := by
  induction count generalizing host with
  | zero =>
      cases hskips
      exact Nat.le_refl _
  | succ count ih =>
      cases hskips with
      | cons _ hrest =>
          exact Nat.le_trans (Reader.pos_le_advance h) (ih (over_skip h) hrest)

/-- The host moved exactly if something was skipped. -/
theorem pos_ne_iff_of_skips (h : host.Over text)
    (hskips : Performs host (List.replicate count .skip) after) :
    after.pos ≠ host.pos <-> 0 < count := by
  cases count with
  | zero =>
      cases hskips
      simp
  | succ count =>
      cases hskips with
      | cons hmoves hrest =>
          have hend := atEnd_of_movable h (hmoves rfl)
          have hlt : host.pos < after.pos :=
            Nat.lt_of_lt_of_le (Reader.pos_lt_advance h hend)
              (pos_le_of_skips (over_skip h) hrest)
          exact iff_of_true (Nat.ne_of_gt hlt) (Nat.succ_pos count)

/-!
## Searching and walking compared
-/

theorem skipLine_eq_skipTo (h : host.Over text) {stop : Nat}
    (hstop : Reader.LineEnd (octets text) host.pos stop) :
    LineHost.skipLine host = .done (host.skipTo { host.reader with pos := stop }) () := by
  have hfound := Reader.lineEnd_unique (Reader.lineEnd_toLineEnd h) hstop
  rw [← hfound]
  rfl

theorem skipTo_eq_jump_iff (host : TextHost) (stop : Nat) :
    host.skipTo { host.reader with pos := stop } = host.jump stop <->
      stop ≠ host.pos ∨ host.bounds.start = host.pos := by
  constructor
  · intro hsame
    by_cases heq : stop = host.pos
    · rw [heq, jump_pos] at hsame
      exact Or.inr (congrArg (fun now => now.bounds.start) hsame).symm
    · exact Or.inl heq
  · intro h
    rcases h with hne | hstart
    · rw [jump_of_ne hne]
    · exact skipTo_eq_jump hstart stop

/-- The search for the end of a line and the walk to it come to the same place and leave the
same host, unless the walk skips nothing and the token starts elsewhere. No routine can tell
them apart. -/
theorem search_agrees_with_walk (h : host.Over text) :
    (LineHost.skipLine host).stalled = false ∧ (Host.stepToLineEnd host).stalled = false ∧
    (LineHost.skipLine host).host.pos = (Host.stepToLineEnd host).host.pos ∧
    (LineHost.skipLine host).host.bounds.stop? =
      (Host.stepToLineEnd host).host.bounds.stop? ∧
    (LineHost.skipLine host).host.regions = (Host.stepToLineEnd host).host.regions ∧
    (exists skipped, Performs host (List.replicate skipped .skip) (Host.stepToLineEnd host).host ∧
      ((LineHost.skipLine host).host = (Host.stepToLineEnd host).host <->
        0 < skipped ∨ host.bounds.start = host.pos)) ∧
    forall routine : Routine, routine.runWalking host = routine.run host ∧
      (routine.run host).stalled = false := by
  have hspec := Reader.lineEnd_toLineEnd h
  generalize host.reader.toLineEnd.pos = stop at hspec
  rcases (lively text).skips_stepToLineEnd h with ⟨skipped, hskips⟩
  have hmoved := pos_ne_iff_of_skips h hskips
  rw [stepToLineEnd_eq_jump h hspec] at hskips hmoved ⊢
  rw [Outcome.host_done, pos_jump] at hmoved
  rw [skipLine_eq_skipTo h hspec]
  refine ⟨rfl, rfl, ?_, ?_, ?_, ⟨skipped, hskips, ?_⟩, ?_⟩
  · exact (pos_jump host stop).symm
  · exact (stop?_jump host stop).symm
  · exact (regions_jump host stop).symm
  · rw [← hmoved]
    exact skipTo_eq_jump_iff host stop
  · intro routine
    refine ⟨(lively text).runWalking_eq_run ?_ h routine, (lively text).settled_run h routine⟩
    intro now hnow
    exact skipLine_eq_stepToLineEnd (over_skip hnow) rfl

theorem search_agrees_with_walk_inside_accent :
    (opened "\u00e9\n" [] 1).Over "\u00e9\n" ∧
      (LineHost.skipLine (opened "\u00e9\n" [] 1)).host.pos = 2 ∧
      (Host.stepToLineEnd (opened "\u00e9\n" [] 1)).host.pos = 2 ∧
      Routine.filler.runWalking (opened "\u00e9\n" [] 1) =
        Routine.filler.run (opened "\u00e9\n" [] 1) := by
  have hfits : "\u00e9\n".utf8ByteSize < UInt32.size := by decide +kernel
  have hover := over_opened_of_fits hfits [] 1
  have hfound : (LineHost.skipLine (opened "\u00e9\n" [] 1)).host.pos = 2 := by
    decide +kernel
  rcases search_agrees_with_walk hover with ⟨_, _, hpos, _, _, _, hroutines⟩
  exact ⟨hover, hfound, hpos ▸ hfound, (hroutines .filler).1⟩

end TextHost
end StatementEnd
