import StatementEnd.Proofs.Lockstep
import StatementEnd.Session.Text

/-!
# Runs of a session

Where a run of steps leads, and what it cannot change. A routine uses nothing but the
operations of a host; the other steps put the host elsewhere or give it other ranges. What
all of these keep holds of every host that a run reaches, and of the one to go back to.
-/

namespace StatementEnd

/-- A step that does not only use the operations of a host keeps a property of it. -/
def TextStep.Keeps (P : TextHost -> Prop) : TextStep -> Prop
  | .seek offset => forall {host : TextHost}, P host -> P (host.seek offset)
  | .regions positions => forall {host : TextHost}, P host -> P (host.withRegions positions)
  | _ => True

namespace TextSession

/-- The session that a run of steps leads to. -/
def reached (session : TextSession) (steps : List TextStep) : TextSession :=
  steps.foldl (fun now step => (now.step step).host) session

/-- The host of the session has a property, and so has the one to go back to. -/
structure Holds (P : TextHost -> Prop) (session : TextSession) : Prop where
  host : P session.host
  saved : P session.saved

variable {P : TextHost -> Prop} {session : TextSession}

theorem holds_step (hP : Lively P) {step : TextStep} (hstep : step.Keeps P)
    (h : session.Holds P) : (session.step step).host.Holds P := by
  have hcall : forall routine, (session.call routine).host.Holds P := by
    intro routine
    exact ⟨hP.kept_run h.host routine, h.saved⟩
  cases step with
  | advance => exact ⟨hP.advance h.host, h.saved⟩
  | skip => exact ⟨hP.skip h.host, h.saved⟩
  | markEnd => exact ⟨hP.markEnd h.host, h.saved⟩
  | skipLine => exact ⟨hP.kept_skipLine h.host, h.saved⟩
  | seek offset => exact ⟨hstep h.host, h.saved⟩
  | regions positions => exact ⟨hstep h.host, h.saved⟩
  | save => exact ⟨h.host, h.host⟩
  | restore => exact ⟨h.saved, h.saved⟩
  | scan request =>
      rw [TextSession.step]
      cases Candidates.ofRequest request with
      | error error => exact h
      | ok candidates => exact hcall _
  | semicolon => exact hcall _
  | comment => exact hcall _
  | filler => exact hcall _
  | reset => exact ⟨h.host, h.saved⟩
  | serialize buffer => exact h
  | deserialize bytes => exact ⟨h.host, h.saved⟩

theorem holds_reached (hP : Lively P) {steps : List TextStep}
    (hsteps : forall step, step ∈ steps -> step.Keeps P) (h : session.Holds P) :
    (session.reached steps).Holds P := by
  induction steps generalizing session with
  | nil => exact h
  | cons step steps ih =>
      rw [List.forall_mem_cons] at hsteps
      exact ih hsteps.2 (holds_step hP hsteps.1 h)

end TextSession
end StatementEnd
