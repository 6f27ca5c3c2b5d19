import StatementEnd.Proofs.Consumption

/-!
# Two hosts of units in lockstep

What is needed of a relation between two hosts of units, so that every step of a session
that reads them answers the same on both. The relation has to survive a consumed unit only
where the host is not at its end, or shows a character there.
-/

namespace StatementEnd

open Outcome (Agrees)

/-- A relation between hosts of units that can move, under which both show the same. -/
structure UnitLockstep (R : UnitHost -> UnitHost -> Prop) : Prop where
  on_left : forall {a b : UnitHost}, R a b -> a.CanAdvance
  on_right : forall {a b : UnitHost}, R a b -> b.CanAdvance
  lookahead : forall {a b : UnitHost}, R a b -> Host.lookahead a = Host.lookahead b
  atEnd : forall {a b : UnitHost}, R a b -> Host.atEnd a = Host.atEnd b
  atRegionStart : forall {a b : UnitHost}, R a b ->
    Host.atRegionStart a = Host.atRegionStart b
  advance : forall {a b : UnitHost}, R a b -> Host.Movable a ->
    R (Host.advance a) (Host.advance b)
  skip : forall {a b : UnitHost}, R a b -> Host.Movable a -> R (Host.skip a) (Host.skip b)
  markEnd : forall {a b : UnitHost}, R a b -> R (Host.markEnd a) (Host.markEnd b)
  clearCalls : forall {a b : UnitHost}, R a b -> R a.clearCalls b.clearCalls
  setSymbol : forall {a b : UnitHost}, R a b -> forall kind : TokenKind,
    R (a.setSymbol kind) (b.setSymbol kind)

/-- Sessions with the same scanner on related hosts. -/
structure SessionsRelated (R : UnitHost -> UnitHost -> Prop) (s t : UnitSession) : Prop where
  hosts : R s.host t.host
  slot : s.slot = t.slot

namespace UnitLockstep

variable {R : UnitHost -> UnitHost -> Prop} {a b : UnitHost}

/-!
## Routines
-/

theorem skipLine (hU : UnitLockstep R) (h : R a b) :
    Agrees R (LineHost.skipLine a) (LineHost.skipLine b) :=
  Host.stepToLineEnd_agrees UnitHost.lively UnitHost.lively hU.on_left hU.on_right
    hU.lookahead hU.atEnd hU.skip h

theorem hosts (hU : UnitLockstep R) :
    LockstepUntil (fun _ => False) UnitHost.CanAdvance UnitHost.CanAdvance R where
  left := UnitHost.lively
  right := UnitHost.lively
  past := Lively.never
  on_left := hU.on_left
  on_right := hU.on_right
  lookahead := hU.lookahead
  atEnd := hU.atEnd
  atRegionStart := hU.atRegionStart
  advance h hmovable := Or.inr (hU.advance h hmovable)
  skip h hmovable := Or.inr (hU.skip h hmovable)
  markEnd := hU.markEnd
  skipLine h hmovable := Or.inr (hU.skipLine (hU.skip h hmovable))

theorem run (hU : UnitLockstep R) (h : R a b) (routine : Routine) :
    Agrees R (routine.run a) (routine.run b) :=
  (hU.hosts.run h routine).resolve_left not_false

theorem scanHost (hU : UnitLockstep R) (h : R a b) (scanner : Scanner)
    (candidates : Candidates) :
    Agrees R (Entry.scanHost scanner candidates a) (Entry.scanHost scanner candidates b) := by
  have hscan : Agrees R (scanToken candidates a) (scanToken candidates b) :=
    (hU.hosts.scanToken h candidates).resolve_left not_false
  apply hscan.andThen
  cases (scanToken candidates a).result with
  | some kind => exact Agrees.done (hU.setSymbol hscan.host kind) true
  | none => exact Agrees.done hscan.host false

theorem entryScan (hU : UnitLockstep R) (h : R a b) (scanner : Option Scanner)
    (table : Option (List Bool)) :
    Agrees (Option.Rel R) (Entry.scan scanner (some a) table)
      (Entry.scan scanner (some b) table) := by
  have hrefused : forall event, Agrees (Option.Rel R) (Entry.refuse (some a) event)
      (Entry.refuse (some b) event) := by
    intro event
    exact (Agrees.done (Option.Rel.some h) false).report event
  cases scanner with
  | none => exact hrefused _
  | some scanner =>
      cases table with
      | none => exact hrefused _
      | some table =>
          cases htable : Candidates.ofTable (table.take TokenKind.count) with
          | error error =>
              rw [Entry.scan, Entry.scan, htable]
              exact hrefused _
          | ok candidates =>
              rw [Entry.scan_of_table htable, Entry.scan_of_table htable]
              have hscan := hU.scanHost h scanner candidates
              exact hscan.andThen (Agrees.done (Option.Rel.some hscan.host) _)

/-!
## Steps of a session
-/

variable {s t : UnitSession}

theorem call (hU : UnitLockstep R) (h : SessionsRelated R s t) (routine : Routine) :
    Agrees (SessionsRelated R) (s.call routine) (t.call routine) := by
  have hrun := hU.run h.hosts routine
  exact hrun.andThen (Agrees.done ⟨hrun.host, h.slot⟩ _)

theorem scan (hU : UnitLockstep R) (h : SessionsRelated R s t)
    (table : Option (List Bool)) :
    Agrees (SessionsRelated R) (s.scan (some s.host) table) (t.scan (some t.host) table) := by
  have hscan := hU.entryScan h.hosts s.slot table
  rw [UnitSession.scan, UnitSession.scan, ← h.slot]
  apply hscan.andThen
  have hhost := hscan.host
  generalize (Entry.scan s.slot (some s.host) table).host = left at hhost
  generalize (Entry.scan s.slot (some t.host) table).host = right at hhost
  cases hhost with
  | some hafter => exact Agrees.done ⟨hafter, rfl⟩ _
  | none => exact Agrees.done ⟨h.hosts, rfl⟩ _

/-- Every step that reads has the same outcome on related hosts. -/
theorem step (hU : UnitLockstep R) (h : SessionsRelated R s t) {step : UnitStep}
    (hreads : step.Reads) : Agrees (SessionsRelated R) (s.step step) (t.step step) := by
  have hclear : SessionsRelated R { s with host := s.host.clearCalls }
      { t with host := t.host.clearCalls } :=
    ⟨hU.clearCalls h.hosts, h.slot⟩
  cases step with
  | semicolon => exact hU.call hclear .semicolon
  | comment => exact hU.call hclear .comment
  | filler => exact hU.call hclear .filler
  | skipLine =>
      have hline := hU.skipLine hclear.hosts
      rw [UnitSession.step, UnitSession.step, UnitSession.act, UnitSession.act]
      apply hline.andThen
      exact Agrees.done ⟨hline.host, h.slot⟩ _
  | scan table => exact hU.scan hclear table
  | _ => cases hreads

end UnitLockstep
end StatementEnd
