import Mathlib.Data.List.Sort
import StatementEnd.Proofs.RegionLookup
import StatementEnd.Proofs.SessionRuns
import StatementEnd.Proofs.Walk

/-!
# Range starts in a session

A session can be given the starts of its ranges again and again, and it keeps those of the
host to go back to. Wherever a run leads, a range starts there exactly when the position
is in the list that was given last. Lists with the same elements are kept as the same
starts, so no run can tell them apart.
-/

namespace StatementEnd

open Text

namespace RegionStarts

/-- The lists hold the same positions, in whatever order and however often. -/
def SameElements (positions positions' : List Nat) : Prop :=
  forall pos, pos ∈ positions <-> pos ∈ positions'

/-- Increasing lists with the same elements are equal. -/
theorem ofList_eq_of_sameElements {positions positions' : List Nat}
    (h : SameElements positions positions') : ofList positions = ofList positions' := by
  have hstarts : (ofList positions).starts.toList = (ofList positions').starts.toList := by
    apply List.Pairwise.eq_of_mem_iff (pairwise_starts positions) (pairwise_starts positions')
    intro pos
    rw [mem_starts, mem_starts]
    exact h pos
  exact congrArg RegionStarts.mk (Array.toList_inj.mp hstarts)

theorem ofList_nil : ofList [] = {} := by
  simp [ofList, dropRepeats]

end RegionStarts

open RegionStarts (SameElements)

/-!
## The list given last
-/

/-- The lists of range starts that hold for the host of a session and for the host to go
back to. -/
structure GivenStarts where
  host : List Nat := []
  saved : List Nat := []

/-- The lists that hold after a step. -/
def GivenStarts.after (given : GivenStarts) : TextStep -> GivenStarts
  | .regions positions => { given with host := positions }
  | .save => { given with saved := given.host }
  | .restore => { given with host := given.saved }
  | _ => given

/-- The lists that hold after a run from the start of a text. -/
def givenStarts (steps : List TextStep) : GivenStarts :=
  steps.foldl GivenStarts.after {}

namespace TextSession

variable {text : String} {session : TextSession} {given : GivenStarts}
  {step step' : TextStep} {steps steps' : List TextStep}

/-- Both hosts of a session stand in a text with the range starts that they were given. -/
structure FollowsStarts (text : String) (session : TextSession) (given : GivenStarts) :
    Prop where
  host : session.host.Over text ∧ session.host.regions = .ofList given.host
  saved : session.saved.Over text ∧ session.saved.regions = .ofList given.saved

theorem followsStarts_ofString (source : String) :
    FollowsStarts (kept source) (ofString source) {} where
  host := ⟨Reader.over_ofString source, RegionStarts.ofList_nil.symm⟩
  saved := ⟨Reader.over_ofString source, RegionStarts.ofList_nil.symm⟩

theorem followsStarts_step (h : FollowsStarts text session given) (step : TextStep) :
    FollowsStarts text (session.step step).host (given.after step) := by
  have hkeeps := TextHost.lively_regions text (.ofList given.host)
  have hcall : forall routine, FollowsStarts text (session.call routine).host given := by
    intro routine
    exact ⟨hkeeps.kept_run h.host routine, h.saved⟩
  cases step with
  | advance => exact ⟨hkeeps.advance h.host, h.saved⟩
  | skip => exact ⟨hkeeps.skip h.host, h.saved⟩
  | markEnd => exact ⟨hkeeps.markEnd h.host, h.saved⟩
  | skipLine => exact ⟨hkeeps.kept_skipLine h.host, h.saved⟩
  | seek offset => exact ⟨⟨Reader.over_seek h.host.1 offset, h.host.2⟩, h.saved⟩
  | regions positions => exact ⟨⟨h.host.1, rfl⟩, h.saved⟩
  | save => exact ⟨h.host, h.host⟩
  | restore => exact ⟨h.saved, h.saved⟩
  | scan request =>
      rw [TextSession.step]
      cases Candidates.ofRequest request with
      | error error => exact h
      | ok candidates => exact hcall _
  | semicolon => exact hcall _
  | comment => exact hcall _
  | filler => exact hcall _
  | reset => exact ⟨h.host, h.saved⟩
  | serialize buffer => exact h
  | deserialize bytes => exact ⟨h.host, h.saved⟩

theorem followsStarts_foldl (h : FollowsStarts text session given) (steps : List TextStep) :
    FollowsStarts text (session.reached steps) (steps.foldl GivenStarts.after given) := by
  induction steps generalizing session given with
  | nil => exact h
  | cons step steps ih => exact ih (followsStarts_step h step)

theorem followsStarts_reached (source : String) (steps : List TextStep) :
    FollowsStarts (kept source) ((ofString source).reached steps) (givenStarts steps) :=
  followsStarts_foldl (followsStarts_ofString source) steps

/-!
## Steps that give the same positions
-/

/-- The steps are the same, up to order and repetition in lists of range starts. -/
inductive SameStep : TextStep -> TextStep -> Prop where
  | same (step : TextStep) : SameStep step step
  | regions {positions positions' : List Nat} :
      SameElements positions positions' ->
      SameStep (.regions positions) (.regions positions')

theorem step_eq_of_sameStep (session : TextSession) (h : SameStep step step') :
    session.step step = session.step step' := by
  cases h with
  | same => rfl
  | regions helements =>
      rw [TextSession.step, TextSession.step, TextHost.withRegions, TextHost.withRegions,
        RegionStarts.ofList_eq_of_sameElements helements]

theorem run_eq_of_sameSteps (session : TextSession) (h : List.Forall₂ SameStep steps steps') :
    session.run steps = session.run steps' := by
  induction h generalizing session with
  | nil => rfl
  | cons hstep _ ih => rw [run, run, step_eq_of_sameStep session hstep, ih]

/-- The starts of ranges are kept strictly increasing, a range starts at a position exactly
when the position was given, and neither order nor repetition in what was given shows in
any answer. -/
theorem range_starts_are_plain_membership :
    (forall (host : TextHost) (positions : List Nat),
      (host.withRegions positions).regions.starts.toList.Pairwise (· < ·) ∧
        SameElements (host.withRegions positions).regions.starts.toList positions) ∧
    (forall (source : String) (steps : List TextStep),
      Host.atRegionStart ((ofString source).reached steps).host = true <->
        ((ofString source).reached steps).host.pos ∈ (givenStarts steps).host) ∧
    (forall (source : String) (steps steps' : List TextStep),
      List.Forall₂ SameStep steps steps' ->
        (ofString source).run steps = (ofString source).run steps') := by
  refine ⟨?_, ?_, ?_⟩
  · intro host positions
    exact ⟨RegionStarts.pairwise_starts positions, fun _ => RegionStarts.mem_starts⟩
  · intro source steps
    have hregions := (followsStarts_reached source steps).host.2
    show ((ofString source).reached steps).host.regions.contains
      ((ofString source).reached steps).host.pos = true <-> _
    rw [hregions]
    exact RegionStarts.contains_ofList_iff _ _
  · intro source steps steps' hsteps
    exact run_eq_of_sameSteps (ofString source) hsteps

end TextSession
end StatementEnd
