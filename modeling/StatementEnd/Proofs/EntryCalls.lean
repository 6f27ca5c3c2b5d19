import StatementEnd.Proofs.Consumption
import StatementEnd.Proofs.ScanContract

/-!
# What the entry points change

Calls that make, save, restore or give back a scanner leave the host alone, and so does a scan
that lacks its scanner, its host or its table. Every other scan uses the operations of the host
and writes the symbol once more behind them, when it has a token to report and only then.

A scanner keeps nothing from one scan to the next. So the calls that save and restore it can be
left out of a run, and every other step of the run still has the same outcome.
-/

namespace StatementEnd

/-- The calls that make, keep and give back a scanner. -/
def UnitStep.Manages : UnitStep -> Prop
  | .create | .destroy | .reset | .serialize _ | .deserialize _ => True
  | _ => False

/-- The units, the ranges and the operations of a host stayed as they were. -/
structure UnitHost.SameSetting (host after : UnitHost) : Prop where
  units : after.units = host.units
  regions : after.regions = host.regions
  abilities : after.abilities = host.abilities

/-- A step of a run, with the session in which it was taken. -/
structure Taken where
  session : UnitSession
  step : UnitStep

namespace Taken

variable (taken : Taken)

/-- What came of the step. -/
def outcome : Outcome UnitSession UnitReply :=
  taken.session.step taken.step

/-- The host that the step was taken on, its log empty. -/
def before : UnitHost :=
  taken.session.host.clearCalls

/-- The host behind the step. -/
def after : UnitHost :=
  taken.outcome.host.host

/-- The step is a scan that lacks its scanner, its host or its table. -/
def LacksArgument : Prop :=
  match taken.step with
  | .scan table => taken.session.slot = none ∨ table = none
  | .scanWithoutHost _ => True
  | _ => False

/-- The step is a scan for a table that lacks nothing. -/
def Scans (table : List Bool) : Prop :=
  taken.step = .scan (some table) ∧ taken.session.slot.isSome = true

/-- Whether the step only saves or restores a scanner, or makes one where there is one. -/
def idle : Bool :=
  match taken.step with
  | .reset | .serialize _ | .deserialize _ => true
  | .create => taken.session.slot.isSome
  | _ => false

/-- The host stayed as it was, nothing was written to its log, and nothing was asked of it:
on every other host the step does the same. -/
structure Untouched : Prop where
  host : taken.after = taken.before
  unseen : forall host, let elsewhere := { taken.session with host := host }.step taken.step
    elsewhere.result = taken.outcome.result ∧ elsewhere.host.slot = taken.outcome.host.slot

/-- A scan comes to an end with an answer, and its host differs by the calls in the log and
by a symbol that is the number of a candidate if there is a token, and the old one if not. -/
structure ScanReported (table : List Bool) : Prop where
  settled : taken.outcome.stalled = false
  answered : exists produced, taken.outcome.result = .verdict (.flag produced)
  produced : taken.outcome.result = .verdict (.flag true) ->
    exists kind : TokenKind, table[kind.ordinal]? = some true ∧
      taken.after.symbol = kind.ordinal
  missed : taken.outcome.result = .verdict (.flag false) ->
    taken.after.symbol = taken.before.symbol
  setting : taken.before.SameSetting taken.after
  calls : taken.after =
    { Host.replay taken.before taken.after.callLog with symbol := taken.after.symbol }

/-- A call of an entry point changed the host as it reported. -/
structure Reported : Prop where
  managed : taken.step.Manages -> taken.Untouched
  saved : forall buffer, taken.step = .serialize buffer ->
    taken.outcome.result = .saved 0 (buffer.map fun _ => true)
  refused : taken.LacksArgument ->
    taken.Untouched ∧ taken.outcome.result = .verdict (.flag false)
  scanned : forall table, taken.Scans table -> taken.ScanReported table

end Taken

namespace UnitSession

/-- The steps of a run, each with the session in which it is taken. -/
def trail (session : UnitSession) : List UnitStep -> List Taken
  | [] => []
  | step :: rest => ⟨session, step⟩ :: (session.step step).host.trail rest

/-- The steps of a run without the idle ones. -/
def busy (session : UnitSession) (steps : List UnitStep) : List Taken :=
  (session.trail steps).filter fun taken => !taken.idle

end UnitSession

/-!
## The symbol
-/

theorem Candidates.flag_of_allows {table : List Bool} {candidates : Candidates}
    {kind : TokenKind} (htable : ofTable (table.take TokenKind.count) = .ok candidates)
    (hallows : candidates.allows kind = true) : table[kind.ordinal]? = some true := by
  -- a table without both flags makes no set, and further flags are not read
  match table, htable with
  | [], htable => cases htable
  | [_], htable => cases htable
  | ends :: opens :: rest, htable =>
      have hset := ofTable_cons_cons ends opens []
      change ofTable [ends, opens] = _ at htable
      rw [hset] at htable
      cases htable
      have hread : (ends :: opens :: rest)[kind.ordinal]? = [ends, opens][kind.ordinal]? := by
        cases kind <;> rfl
      rw [hread]
      clear hread hset
      revert hallows
      cases ends <;> cases opens <;> cases kind <;> decide

theorem UnitHost.kept_symbol_of_performs {host after : UnitHost} {calls : List HostCall}
    (h : Performs host calls after) : after.symbol = host.symbol ∧ host.SameSetting after := by
  induction h with
  | nil => exact ⟨rfl, rfl, rfl, rfl⟩
  | @cons host after call calls _ _ ih =>
      rcases perform_cases call host with ⟨_, _, heq⟩ | ⟨_, _, _, heq⟩
      · rw [heq] at ih
        exact ⟨ih.1, ih.2.units, ih.2.regions, ih.2.abilities⟩
      · rw [heq] at ih
        exact ⟨ih.1, ih.2.units, ih.2.regions, ih.2.abilities⟩

theorem replay_callLog_of_operates {host final : UnitHost} (hlog : host.calls = [])
    (h : Operates host final) :
    final = { Host.replay host final.callLog with symbol := final.symbol } := by
  rcases h with ⟨calls, after, symbol, hcalls, rfl⟩
  rcases UnitHost.logged_of_performs hcalls with ⟨hlogged, hafter⟩
  have hcallLog : ({ after with symbol := symbol } : UnitHost).callLog =
      calls.filter host.carriesOut := by
    show after.calls.reverse = _
    rw [hafter, hlog, List.append_nil, List.reverse_reverse]
  rw [hcallLog, replay_of_performs hlogged]

namespace Entry

variable {host : UnitHost} {table : List Bool}

theorem symbol_scanHost (scanner : Scanner) (candidates : Candidates) (host : UnitHost) :
    (scanHost scanner candidates host).host.symbol =
      ((attempt candidates host).result.map TokenKind.ordinal).getD
        (attempt candidates host).host.symbol := by
  rw [scanHost, Scanner.scan, scanToken]
  rcases attempt candidates host with ⟨kind?, after, events, stalled⟩
  cases kind? <;> rfl

/-- A scan writes the symbol when it has a token, and then the number of a candidate. -/
theorem scan_symbol (h : host.CanAdvance) (scanner : Scanner) (table : List Bool) :
    exists final, (scan (some scanner) (some host) (some table)).host = some final ∧
      host.SameSetting final ∧
      ((scan (some scanner) (some host) (some table)).result = true ->
        exists kind : TokenKind, table[kind.ordinal]? = some true ∧
          final.symbol = kind.ordinal) ∧
      ((scan (some scanner) (some host) (some table)).result = false ->
        final.symbol = host.symbol) := by
  cases htable : Candidates.ofTable (table.take TokenKind.count) with
  | error error =>
      rw [scan, htable]
      exact ⟨host, rfl, ⟨rfl, rfl, rfl⟩, fun hresult => Bool.noConfusion hresult, fun _ => rfl⟩
  | ok candidates =>
      rcases UnitHost.stepwise.attempt_order h candidates with ⟨calls, hcalls, _⟩
      rcases UnitHost.kept_symbol_of_performs hcalls with ⟨hsymbol, hsetting⟩
      rcases scanHost_eq_attempt scanner candidates host with ⟨hresult, _, symbol, hhost⟩
      have hwritten := symbol_scanHost scanner candidates host
      rw [scan_of_table htable]
      refine ⟨_, rfl, ?_, ?_, ?_⟩
      · rw [hhost]
        exact ⟨hsetting.units, hsetting.regions, hsetting.abilities⟩
      · intro hproduced
        change (scanHost scanner candidates host).result = true at hproduced
        rw [hresult] at hproduced
        rcases Option.isSome_iff_exists.mp hproduced with ⟨kind, hkind⟩
        rw [hkind] at hwritten
        exact ⟨kind, Candidates.flag_of_allows htable (allows_of_attempt hkind), hwritten⟩
      · intro hmissed
        change (scanHost scanner candidates host).result = false at hmissed
        rw [hresult, Option.isSome_eq_false_iff, Option.isNone_iff_eq_none] at hmissed
        rw [hmissed, Option.map_none, Option.getD_none, hsymbol] at hwritten
        exact hwritten

end Entry

/-!
## One call
-/

namespace Taken

variable {taken : Taken}

theorem untouched_of_manages (h : taken.step.Manages) : taken.Untouched := by
  rcases taken with ⟨session, step⟩
  cases step with
  | create => exact ⟨rfl, fun _ => ⟨rfl, rfl⟩⟩
  | destroy => exact ⟨rfl, fun _ => ⟨rfl, rfl⟩⟩
  | reset => exact ⟨rfl, fun _ => ⟨rfl, rfl⟩⟩
  | serialize buffer => exact ⟨rfl, fun _ => ⟨rfl, rfl⟩⟩
  | deserialize bytes => exact ⟨rfl, fun _ => ⟨rfl, rfl⟩⟩
  | _ => cases h

theorem saved_nothing {buffer : Option (List UInt8)} (h : taken.step = .serialize buffer) :
    taken.outcome.result = .saved 0 (buffer.map fun _ => true) := by
  rcases taken with ⟨session, step⟩
  cases h
  have hsame : (buffer == buffer) = true := beq_self_eq_true buffer
  show UnitReply.saved (Entry.serialize session.slot buffer).1
    (buffer.map fun _ => (Entry.serialize session.slot buffer).2 == buffer) = _
  rw [Entry.serialize_eq, hsame]

theorem refused_of_lacksArgument (h : taken.LacksArgument) :
    taken.Untouched ∧ taken.outcome.result = .verdict (.flag false) := by
  rcases taken with ⟨⟨slot, host⟩, step⟩
  cases step with
  | scan table =>
      rcases h with hslot | htable
      · cases hslot
        exact ⟨⟨rfl, fun _ => ⟨rfl, rfl⟩⟩, rfl⟩
      · cases htable
        cases slot <;> exact ⟨⟨rfl, fun _ => ⟨rfl, rfl⟩⟩, rfl⟩
  | scanWithoutHost table =>
      cases slot <;> exact ⟨⟨rfl, fun _ => ⟨rfl, rfl⟩⟩, rfl⟩
  | _ => cases h

theorem scanReported (hadvance : taken.session.host.CanAdvance) {table : List Bool}
    (h : taken.Scans table) : taken.ScanReported table := by
  rcases taken with ⟨⟨slot, host⟩, step⟩
  rcases h with ⟨hstep, hslot⟩
  rcases Option.isSome_iff_exists.mp hslot with ⟨scanner, hscanner⟩
  cases hstep
  cases hscanner
  have hclear : host.clearCalls.CanAdvance := hadvance
  rcases Entry.scan_operates (some scanner) hclear (some table) with
    ⟨hsettled, final, hfinal, hoperates⟩
  rcases Entry.scan_symbol hclear scanner table with
    ⟨final', hfinal', hsetting, hproduced, hmissed⟩
  rw [hfinal] at hfinal'
  cases hfinal'
  have hafter : (Taken.mk ⟨some scanner, host⟩ (.scan (some table))).after = final := by
    show (Entry.scan (some scanner) (some host.clearCalls) (some table)).host.getD
      host.clearCalls = final
    rw [hfinal, Option.getD_some]
  constructor
  · rw [← hsettled]
    exact Bool.or_false _
  · exact ⟨_, rfl⟩
  · intro hresult
    rw [hafter]
    exact hproduced (Verdict.flag.inj (UnitReply.verdict.inj hresult))
  · intro hresult
    rw [hafter]
    exact hmissed (Verdict.flag.inj (UnitReply.verdict.inj hresult))
  · rw [hafter]
    exact hsetting
  · rw [hafter]
    exact replay_callLog_of_operates rfl hoperates

theorem reported (hadvance : forall table, taken.Scans table -> taken.session.host.CanAdvance) :
    taken.Reported where
  managed := untouched_of_manages
  saved _ := saved_nothing
  refused := refused_of_lacksArgument
  scanned table hscans := scanReported (hadvance table hscans) hscans

end Taken

/-!
## Runs
-/

namespace UnitSession

theorem run_eq_trail (session : UnitSession) (steps : List UnitStep) :
    session.run steps = (session.trail steps).map Taken.outcome := by
  induction steps generalizing session with
  | nil => rfl
  | cons step steps ih => exact congrArg (session.step step :: ·) (ih _)

/-- The log is emptied before every step, so it makes no difference to a run. -/
theorem run_clearCalls (session : UnitSession) (steps : List UnitStep) :
    UnitSession.run { session with host := session.host.clearCalls } steps =
      session.run steps := by
  cases steps <;> rfl

theorem step_of_idle {session : UnitSession} {step : UnitStep}
    (h : (Taken.mk session step).idle = true) :
    (session.step step).host = { session with host := session.host.clearCalls } := by
  rcases session with ⟨slot, host⟩
  cases step with
  | create =>
      rcases Option.isSome_iff_exists.mp h with ⟨scanner, hscanner⟩
      cases hscanner
      rfl
  | reset => cases slot <;> rfl
  | serialize buffer => rfl
  | deserialize bytes => cases slot <;> rfl
  | _ => cases h

theorem run_busy (session : UnitSession) (steps : List UnitStep) :
    session.run ((session.busy steps).map Taken.step) =
      (session.busy steps).map Taken.outcome := by
  induction steps generalizing session with
  | nil => rfl
  | cons step steps ih =>
      have hrest := ih (session.step step).host
      unfold busy at hrest ⊢
      rw [trail]
      cases hidle : (Taken.mk session step).idle with
      | true =>
          -- only the log tells the sessions before and behind the step apart
          rw [step_of_idle hidle, run_clearCalls] at hrest
          rw [List.filter_cons_of_neg (by simp [hidle]), step_of_idle hidle]
          exact hrest
      | false =>
          rw [List.filter_cons_of_pos (by simp [hidle])]
          exact congrArg (session.step step :: ·) hrest

/-- Whatever is done to a host and its scanner, each call of an entry point changes the host
only as it reports, and the calls that just save and restore the scanner can be left out:
every other step has the outcome that it had. -/
theorem entry_points_change_host_as_reported (session : UnitSession) (steps : List UnitStep)
    (hadvance : forall taken, taken ∈ session.trail steps ->
      forall table, taken.Scans table -> taken.session.host.CanAdvance) :
    session.run steps = (session.trail steps).map Taken.outcome ∧
      (forall taken, taken ∈ session.trail steps -> taken.Reported) ∧
      session.run ((session.busy steps).map Taken.step) =
        (session.busy steps).map Taken.outcome := by
  refine ⟨run_eq_trail session steps, ?_, run_busy session steps⟩
  intro taken hmem
  exact Taken.reported (hadvance taken hmem)

theorem entry_points_change_host_as_reported_around_comment :
    let session := ofString "/**/"
    let steps := [.ability .advance false, .scan (some [false, true]), .ability .advance true,
      .create, .scan (some [false, true]), .serialize (some [7, 7]), .create, .reset,
      .scan (some [true, true]), .seek 0, .scan (some [true, false]), .destroy]
    (forall taken, taken ∈ session.trail steps ->
      forall table, taken.Scans table -> taken.session.host.CanAdvance) ∧
      (session.busy steps).map Taken.step =
        [.ability .advance false, .scan (some [false, true]), .ability .advance true, .create,
          .scan (some [false, true]), .scan (some [true, true]), .seek 0,
          .scan (some [true, false]), .destroy] ∧
      (session.trail steps).map (fun taken => taken.after.symbol) =
        [65535, 65535, 65535, 65535, 1, 1, 1, 1, 0, 65535, 65535, 65535] ∧
      (forall taken, taken ∈ session.trail steps -> taken.Reported) ∧
      session.run ((session.busy steps).map Taken.step) =
        (session.busy steps).map Taken.outcome := by
  intro session steps
  have hready : forall taken, taken ∈ session.trail steps ->
      taken.session.slot.isSome = true -> taken.session.host.abilities.advance = true := by
    decide +kernel
  have hadvance : forall taken, taken ∈ session.trail steps ->
      forall table, taken.Scans table -> taken.session.host.CanAdvance := by
    intro taken hmem table hscans
    exact hready taken hmem hscans.2
  have hreports := entry_points_change_host_as_reported session steps hadvance
  exact ⟨hadvance, by decide +kernel, by decide +kernel, hreports.2⟩

end UnitSession
end StatementEnd
