import StatementEnd.Proofs.CallOrder
import StatementEnd.Session.Units

/-!
# Every call consumes one unit

Nothing that reads a host of units runs for ever, and as long as the host shows the unit at
its position, each call of the operation that moves it consumes one more unit. No such call
is made at the end. A host whose unit ahead was overwritten may be asked to move once more
than it has units left, by the first call, which brings the unit up to date.
-/

namespace StatementEnd

/-- The host after a list of operations. -/
def Host.replay {σ : Type} [Host σ] (host : σ) (calls : List HostCall) : σ :=
  calls.foldl (fun now call => call.perform now) host

/-!
## Replaying a list of operations
-/

section Replay

variable {σ : Type} [Host σ] {host after : σ} {calls calls' : List HostCall}

theorem replay_of_performs (h : Performs host calls after) : Host.replay host calls = after := by
  induction h with
  | nil => rfl
  | cons _ _ ih => exact ih

theorem exists_middle_of_performs (h : Performs host (calls ++ calls') after) :
    exists middle, Performs host calls middle ∧ Performs middle calls' after := by
  induction calls generalizing host with
  | nil => exact ⟨host, Performs.nil, h⟩
  | cons call calls ih =>
      cases h with
      | cons hmoves hrest =>
          rcases ih hrest with ⟨middle, hfirst, hsecond⟩
          exact ⟨middle, Performs.cons hmoves hfirst, hsecond⟩

end Replay

namespace UnitHost

variable {host after : UnitHost} {call : HostCall} {calls : List HostCall}

/-- The host shows the unit at its position. -/
def Synced (host : UnitHost) : Prop :=
  host.raw = unitAt host.units host.pos

/-- The calls in the log, in order. -/
def callLog (host : UnitHost) : List HostCall :=
  host.calls.reverse

/-- Before each call that consumes a unit the host is not at its end, and the call moves it
by one unit. -/
def MovesByOne (host : UnitHost) (log : List HostCall) : Prop :=
  forall earlier call later, log = earlier ++ call :: later -> call.consumes = true ->
    Host.atEnd (Host.replay host earlier) = false ∧
      (Host.replay host earlier).pos < host.units.size ∧
        (call.perform (Host.replay host earlier)).pos = (Host.replay host earlier).pos + 1

/-!
## One operation
-/

theorem units_perform (call : HostCall) (host : UnitHost) :
    (call.perform host).units = host.units := by
  rcases perform_cases call host with ⟨_, _, heq⟩ | ⟨_, _, _, heq⟩
  · rw [heq]
  · rw [heq, sync]

theorem canAdvance_perform (call : HostCall) (h : host.CanAdvance) :
    (call.perform host).CanAdvance := by
  rw [CanAdvance, abilities_perform]
  exact h

theorem synced_perform (call : HostCall) (h : host.Synced) : (call.perform host).Synced := by
  rcases perform_cases call host with ⟨_, _, heq⟩ | ⟨_, _, _, heq⟩
  · rw [heq]
    exact h
  · rw [heq]
    rfl

theorem perform_of_not_consumes (h : call.consumes = false) :
    (call.perform host).pos = host.pos ∧ (call.perform host).remaining = host.remaining := by
  rcases perform_cases call host with ⟨_, _, heq⟩ | ⟨hconsumes, _⟩
  · rw [heq]
    exact ⟨rfl, rfl⟩
  · rw [h] at hconsumes
    cases hconsumes

theorem perform_of_consumes (h : host.CanAdvance) (hconsumes : call.consumes = true) :
    (call.perform host).pos = host.nextPos := by
  cases call with
  | advance => exact congrArg pos (advance_of_canAdvance h)
  | skip => exact congrArg pos (skip_of_canAdvance h)
  | markEnd => cases hconsumes

theorem remaining_perform_lt (h : host.CanAdvance) (hconsumes : call.consumes = true)
    (hmovable : Host.Movable host) : (call.perform host).remaining < host.remaining := by
  cases call with
  | advance => exact advance_lt h hmovable
  | skip => exact skip_lt h hmovable
  | markEnd => cases hconsumes

/-- A movable host that shows the unit at its position is not at its end. -/
theorem before_end (hsynced : host.Synced) (hmovable : Host.Movable host) :
    Host.atEnd host = false ∧ host.pos < host.units.size := by
  have hlt : host.pos < host.units.size := by
    apply Nat.lt_of_not_le
    intro hend
    exact raw_ne_of_movable hmovable hend hsynced
  refine ⟨?_, hlt⟩
  rcases hmovable with hshows | hnotEnd
  · show host.atEnd = false
    unfold atEnd
    split
    · exact decide_eq_false (Nat.not_le_of_lt hlt)
    · apply beq_eq_false_iff_ne.mpr
      intro hzero
      apply hshows
      show charOf host.raw = '\x00'
      rw [hzero, charOf_zero]
  · exact hnotEnd

/-!
## Lists of operations
-/

theorem kept_of_performs (h : Performs host calls after) :
    after.units = host.units ∧ (host.CanAdvance -> after.CanAdvance) ∧
      (host.Synced -> after.Synced) := by
  induction h with
  | nil => exact ⟨rfl, id, id⟩
  | @cons host after call calls _ _ ih =>
      rcases ih with ⟨hunits, hadvance, hsynced⟩
      rw [units_perform] at hunits
      exact ⟨hunits, fun h => hadvance (canAdvance_perform call h),
        fun h => hsynced (synced_perform call h)⟩

theorem countP_le_remaining (h : Performs host calls after) (hadvance : host.CanAdvance) :
    calls.countP HostCall.consumes ≤ host.remaining := by
  induction h with
  | nil => exact Nat.zero_le _
  | @cons host after call calls hmoves _ ih =>
      have hrest := ih (canAdvance_perform call hadvance)
      cases hconsumes : call.consumes with
      | true =>
          have hlt := remaining_perform_lt hadvance hconsumes (hmoves hconsumes)
          rw [List.countP_cons_of_pos hconsumes]
          exact Nat.le_trans (Nat.succ_le_succ hrest) hlt
      | false =>
          rw [(perform_of_not_consumes hconsumes).2] at hrest
          rw [List.countP_cons_of_neg (Bool.eq_false_iff.mp hconsumes)]
          exact hrest

theorem remaining_le (host : UnitHost) :
    host.remaining ≤ host.units.size - host.pos + 1 := by
  unfold remaining
  split <;> omega

theorem pos_of_performs (h : Performs host calls after) (hadvance : host.CanAdvance)
    (hsynced : host.Synced) : after.pos = host.pos + calls.countP HostCall.consumes := by
  induction h with
  | nil => rfl
  | @cons host after call calls hmoves _ ih =>
      have hrest := ih (canAdvance_perform call hadvance) (synced_perform call hsynced)
      cases hconsumes : call.consumes with
      | true =>
          have hlt := (before_end hsynced (hmoves hconsumes)).2
          rw [perform_of_consumes hadvance hconsumes, nextPos, if_pos hlt] at hrest
          rw [List.countP_cons_of_pos hconsumes, hrest]
          omega
      | false =>
          rw [(perform_of_not_consumes hconsumes).1] at hrest
          rw [List.countP_cons_of_neg (Bool.eq_false_iff.mp hconsumes), hrest]

theorem movesByOne_of_performs (h : Performs host calls after) (hadvance : host.CanAdvance)
    (hsynced : host.Synced) : host.MovesByOne calls := by
  intro earlier call later hsplit hconsumes
  rw [hsplit] at h
  rcases exists_middle_of_performs h with ⟨middle, hfirst, hrest⟩
  rcases kept_of_performs hfirst with ⟨hunits, hadvance', hsynced'⟩
  rw [replay_of_performs hfirst]
  cases hrest with
  | cons hmoves _ =>
      rcases before_end (hsynced' hsynced) (hmoves hconsumes) with ⟨hend, hlt⟩
      refine ⟨hend, ?_, ?_⟩
      · rw [← hunits]
        exact hlt
      · rw [perform_of_consumes (hadvance' hadvance) hconsumes, nextPos, if_pos hlt]

end UnitHost

/-!
## Steps that read

Every step that runs a routine on the host, directly or through the entry point, is a list
of operations.
-/

/-- The steps that read what stands ahead of the host. -/
def UnitStep.Reads : UnitStep -> Prop
  | .semicolon | .comment | .filler | .skipLine | .scan _ => True
  | _ => False

theorem Stepwise.run {σ : Type} [LineHost σ] {P : σ -> Prop} (hP : Stepwise P) {host : σ}
    (h : P host) (routine : Routine) :
    exists calls, Performs host calls (routine.run host).host := by
  cases routine with
  | scan candidates =>
      rcases hP.attempt_order h candidates with ⟨calls, hcalls, _⟩
      exact ⟨calls, hcalls⟩
  | semicolon =>
      rcases hP.scanSemicolon h with ⟨skips, hcalls⟩
      exact ⟨_, hcalls⟩
  | comment =>
      rcases hP.scanComment h with ⟨advances, hcalls, _⟩
      exact ⟨_, hcalls⟩
  | filler =>
      rcases hP.skipFiller h with ⟨skips, hcalls⟩
      exact ⟨_, hcalls⟩

/-- Operations take one host to another, and at last a symbol may be reported. -/
def Operates (host final : UnitHost) : Prop :=
  exists calls after symbol,
    Performs host calls after ∧ final = { after with symbol := symbol }

theorem operates_of_performs {host after : UnitHost} {calls : List HostCall}
    (h : Performs host calls after) : Operates host after :=
  ⟨calls, after, after.symbol, h, rfl⟩

theorem Entry.scan_operates (scanner : Option Scanner) {host : UnitHost}
    (h : host.CanAdvance) (table : Option (List Bool)) :
    (Entry.scan scanner (some host) table).stalled = false ∧
      exists final, (Entry.scan scanner (some host) table).host = some final ∧
        Operates host final := by
  have hrefused := operates_of_performs (@Performs.nil _ _ host)
  cases scanner with
  | none => exact ⟨rfl, host, rfl, hrefused⟩
  | some scanner =>
      cases table with
      | none => exact ⟨rfl, host, rfl, hrefused⟩
      | some table =>
          cases htable : Candidates.ofTable (table.take TokenKind.count) with
          | error error =>
              rw [Entry.scan, htable]
              exact ⟨rfl, host, rfl, hrefused⟩
          | ok candidates =>
              have hsettled :=
                (UnitHost.lively.lockstep.attempt ⟨h, rfl⟩ candidates).settled.1
              rcases UnitHost.stepwise.attempt_order h candidates with ⟨calls, hcalls, _⟩
              rcases scanHost_eq_attempt scanner candidates host with
                ⟨_, hstalled, symbol, hhost⟩
              rw [Entry.scan_of_table htable]
              refine ⟨?_, _, rfl, calls, _, symbol, hcalls, hhost⟩
              rw [← hsettled, ← hstalled]
              exact Bool.or_false _

namespace UnitSession

variable {session : UnitSession}

theorem call_operates (h : session.host.CanAdvance) (routine : Routine) :
    (session.call routine).stalled = false ∧
      Operates session.host (session.call routine).host.host := by
  have hsettled := UnitHost.lively.settled_run h routine
  rcases UnitHost.stepwise.run h routine with ⟨calls, hcalls⟩
  refine ⟨?_, operates_of_performs hcalls⟩
  rw [← hsettled]
  exact Bool.or_false _

theorem skipLine_operates (h : session.host.CanAdvance) :
    (session.act .skipLine).stalled = false ∧
      Operates session.host (session.act .skipLine).host.host := by
  rcases UnitHost.skips_skipLine h with ⟨skips, hcalls⟩
  rcases UnitHost.lively.skipLine h with ⟨after, hrun, _, _⟩
  rw [hrun] at hcalls
  rw [act, hrun]
  exact ⟨rfl, operates_of_performs hcalls⟩

theorem scan_operates (h : session.host.CanAdvance) (table : Option (List Bool)) :
    (session.scan (some session.host) table).stalled = false ∧
      Operates session.host (session.scan (some session.host) table).host.host := by
  rcases Entry.scan_operates session.slot h table with ⟨hsettled, final, hfinal, hoperates⟩
  constructor
  · rw [← hsettled]
    exact Bool.or_false _
  · have hhost : (session.scan (some session.host) table).host.host =
        (Entry.scan session.slot (some session.host) table).host.getD session.host := rfl
    rw [hhost, hfinal]
    exact hoperates

theorem act_operates (h : session.host.CanAdvance) {step : UnitStep} (hreads : step.Reads) :
    (session.act step).stalled = false ∧
      Operates session.host (session.act step).host.host := by
  cases step with
  | semicolon => exact call_operates h .semicolon
  | comment => exact call_operates h .comment
  | filler => exact call_operates h .filler
  | skipLine => exact skipLine_operates h
  | scan table => exact scan_operates h table
  | _ => cases hreads

end UnitSession

/-- A step that reads comes to an end, and on a host that shows the unit at its position
each call that moves the host consumes one more unit. On any other host there may be one
call more than units are left. -/
theorem reading_consumes_exactly (session : UnitSession) {step : UnitStep}
    (hreads : step.Reads) (hadvance : session.host.CanAdvance) :
    (session.step step).stalled = false ∧
    (exists symbol, (session.step step).host.host =
      { Host.replay session.host.clearCalls (session.step step).host.host.callLog with
        symbol := symbol }) ∧
    (session.host.Synced ->
      session.host.clearCalls.MovesByOne (session.step step).host.host.callLog ∧
      (session.step step).host.host.pos = session.host.pos +
        (session.step step).host.host.callLog.countP HostCall.consumes) ∧
    (session.step step).host.host.callLog.countP HostCall.consumes ≤
      session.host.units.size - session.host.pos + 1 := by
  have hclear : session.host.clearCalls.CanAdvance := hadvance
  have hact : (session.step step).stalled = false ∧
      Operates session.host.clearCalls (session.step step).host.host :=
    @UnitSession.act_operates { session with host := session.host.clearCalls } hclear _ hreads
  rcases hact with ⟨hsettled, calls, after, symbol, hcalls, hfinal⟩
  rcases UnitHost.logged_of_performs hcalls with ⟨hlogged, hlog⟩
  have hcallLog : (session.step step).host.host.callLog =
      calls.filter session.host.clearCalls.carriesOut := by
    rw [hfinal]
    show after.calls.reverse = _
    rw [hlog, List.reverse_append, List.reverse_reverse]
    rfl
  rw [hcallLog]
  refine ⟨hsettled, ⟨symbol, ?_⟩, ?_, ?_⟩
  · rw [replay_of_performs hlogged]
    exact hfinal
  · intro hsynced
    have hpos := UnitHost.pos_of_performs hlogged hclear hsynced
    rw [hfinal]
    exact ⟨UnitHost.movesByOne_of_performs hlogged hclear hsynced, hpos⟩
  · exact Nat.le_trans (UnitHost.countP_le_remaining hlogged hclear)
      (UnitHost.remaining_le session.host.clearCalls)

theorem reading_consumes_exactly_past_zero :
    UnitStep.comment.Reads ∧
      (UnitSession.ofUnits #[47, 42, 0, 42, 47, 47]).host.CanAdvance ∧
      (UnitSession.ofUnits #[47, 42, 0, 42, 47, 47]).host.Synced ∧
      ((UnitSession.ofUnits #[47, 42, 0, 42, 47, 47]).step .comment).host.host.pos = 5 ∧
      ((UnitSession.ofUnits #[47, 42, 0, 42, 47, 47]).step
        .comment).host.host.callLog.countP HostCall.consumes = 5 := by
  have hpos : ((UnitSession.ofUnits #[47, 42, 0, 42, 47, 47]).step .comment).host.host.pos =
      5 := by
    decide +kernel
  rcases @reading_consumes_exactly (.ofUnits #[47, 42, 0, 42, 47, 47]) .comment
    trivial rfl with ⟨_, _, hexact, _⟩
  have hcount := (hexact rfl).2
  rw [hpos] at hcount
  have hstart : (UnitSession.ofUnits #[47, 42, 0, 42, 47, 47]).host.pos = 0 := rfl
  rw [hstart, Nat.zero_add] at hcount
  exact ⟨trivial, rfl, rfl, hpos, hcount.symm⟩

end StatementEnd
