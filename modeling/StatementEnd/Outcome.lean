import StatementEnd.Event

/-!
# Outcomes

What a routine leaves behind: its result, the host as the routine left it, the
events it reported, and whether it had to give up on a host that stood still. On
a host that moves when it is asked to, no routine gives up.

Routines are put together with `andThen`, which goes on from the host that an
outcome left, or with something that holds it, keeps the events of both parts in
their order and gives up when either part does.
-/

namespace StatementEnd

structure Outcome (σ : Type) (α : Type) where
  result : α
  host : σ
  events : List Event := []
  /-- A loop was cut off because the host did not come nearer to its end. -/
  stalled : Bool := false

namespace Outcome

def done {σ α : Type} (host : σ) (result : α) : Outcome σ α where
  result := result
  host := host

/-- The outcome of a loop that was cut off. -/
def cutOff {σ α : Type} (host : σ) (result : α) : Outcome σ α where
  result := result
  host := host
  stalled := true

def map {σ α β : Type} (change : α -> β) (outcome : Outcome σ α) : Outcome σ β where
  result := change outcome.result
  host := outcome.host
  events := outcome.events
  stalled := outcome.stalled

def report {σ α : Type} (outcome : Outcome σ α) (event : Event) : Outcome σ α :=
  { outcome with events := outcome.events ++ [event] }

def andThen {σ τ α β : Type} (outcome : Outcome σ α)
    (next : α -> σ -> Outcome τ β) : Outcome τ β :=
  let rest := next outcome.result outcome.host
  { result := rest.result
    host := rest.host
    events := outcome.events ++ rest.events
    stalled := outcome.stalled || rest.stalled }

/-!
## Going on from a plain result
-/

variable {σ τ α β : Type}

@[simp] theorem result_done (host : σ) (result : α) :
    (Outcome.done host result).result = result := rfl

@[simp] theorem host_done (host : σ) (result : α) :
    (Outcome.done host result).host = host := rfl

@[simp] theorem events_done (host : σ) (result : α) :
    (Outcome.done host result).events = [] := rfl

@[simp] theorem stalled_done (host : σ) (result : α) :
    (Outcome.done host result).stalled = false := rfl

@[simp] theorem andThen_done (host : σ) (result : α) (next : α -> σ -> Outcome τ β) :
    (Outcome.done host result).andThen next = next result host := by
  simp [andThen]

/-!
## Replacing the result
-/

@[simp] theorem result_map (change : α -> β) (outcome : Outcome σ α) :
    (outcome.map change).result = change outcome.result := rfl

@[simp] theorem host_map (change : α -> β) (outcome : Outcome σ α) :
    (outcome.map change).host = outcome.host := rfl

@[simp] theorem stalled_map (change : α -> β) (outcome : Outcome σ α) :
    (outcome.map change).stalled = outcome.stalled := rfl

@[simp] theorem map_done (change : α -> β) (host : σ) (result : α) :
    (Outcome.done host result).map change = .done host (change result) := rfl

/-!
## Adding an event
-/

@[simp] theorem result_report (outcome : Outcome σ α) (event : Event) :
    (outcome.report event).result = outcome.result := rfl

@[simp] theorem host_report (outcome : Outcome σ α) (event : Event) :
    (outcome.report event).host = outcome.host := rfl

@[simp] theorem stalled_report (outcome : Outcome σ α) (event : Event) :
    (outcome.report event).stalled = outcome.stalled := rfl

end Outcome
end StatementEnd
