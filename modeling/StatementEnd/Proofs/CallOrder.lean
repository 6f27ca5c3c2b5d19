import StatementEnd.Entry
import StatementEnd.Proofs.Operations
import StatementEnd.Proofs.UnitProgress

/-!
# The order of the calls that a host gets

A host learns where a token starts and ends only from the order in which its operations
are called. With the semicolon among the candidates the end is marked before anything
else, and whatever is read afterwards is skipped. Without it, filler is skipped first and
a comment is consumed after it, and the end is marked behind a comment that was closed and
nowhere else.
-/

namespace StatementEnd

open Filler

/-- The calls of one scan, in order, for two flags and an answer. -/
inductive CallOrder : Bool -> Bool -> Bool -> List HostCall -> Prop where
  | semicolon (opens produced : Bool) (skips : Nat) :
      CallOrder true opens produced (.markEnd :: List.replicate skips .skip)
  | nothing (skips : Nat) : CallOrder false false false (List.replicate skips .skip)
  | comment (produced : Bool) (skips advances : Nat) :
      (produced = true -> 4 ≤ advances) ->
      CallOrder false true produced
        (List.replicate skips .skip ++ (List.replicate advances .advance ++
          if produced then [.markEnd] else []))

namespace CallOrder

variable {ends opens produced : Bool} {log : List HostCall}

/-!
## What the order rules out
-/

theorem no_skip_behind_advance (h : CallOrder ends opens produced log) :
    log.Pairwise fun earlier later => earlier = .advance -> later ≠ .skip := by
  cases h with
  | semicolon opens produced skips =>
      simp [List.pairwise_cons, List.pairwise_replicate]
  | nothing skips => simp [List.pairwise_replicate]
  | comment produced skips advances _ =>
      cases produced <;> simp [List.pairwise_append, List.pairwise_replicate]

theorem nothing_behind_mark (h : CallOrder false opens produced log) :
    log.Pairwise fun earlier _ => earlier ≠ .markEnd := by
  cases h with
  | nothing skips => simp [List.pairwise_replicate]
  | comment produced skips advances _ =>
      cases produced <;> simp [List.pairwise_append, List.pairwise_replicate]

theorem not_marked_of_failed (h : CallOrder false opens false log) : HostCall.markEnd ∉ log := by
  cases h with
  | nothing skips => simp
  | comment produced skips advances _ => simp

end CallOrder

namespace UnitHost

variable {host after : UnitHost} {calls : List HostCall}

/-- The host has the operation that marks the end of a token. -/
def CanMark (host : UnitHost) : Prop :=
  host.abilities.markEnd = true

/-- Whether the host carries out an operation, and so writes it to its log. -/
def carriesOut (host : UnitHost) : HostCall -> Bool
  | .advance | .skip => host.abilities.advance
  | .markEnd => host.abilities.markEnd

theorem skips_skipLine (h : host.CanAdvance) : Skips host (LineHost.skipLine host).host :=
  lively.skips_stepToLineEnd h

theorem stepwise : Stepwise CanAdvance where
  lively := lively
  line h := skips_skipLine (canAdvance_skip h)

/-!
## The log of a list of operations
-/

/-- An operation changes the token and the log alone, or it also moves the host. -/
theorem perform_cases (call : HostCall) (host : UnitHost) :
    (exists bounds log, call.perform host = { host with bounds := bounds, calls := log }) ∨
      (call.consumes = true ∧ exists bounds log, call.perform host =
        (sync { host with pos := host.nextPos, bounds := bounds, calls := log })) := by
  cases call with
  | advance =>
      by_cases hadvance : host.abilities.advance = true
      · exact Or.inr ⟨rfl, host.bounds, .advance :: host.calls, if_pos hadvance⟩
      · exact Or.inl ⟨host.bounds, host.calls, if_neg hadvance⟩
  | skip =>
      by_cases hadvance : host.abilities.advance = true
      · exact Or.inr ⟨rfl, host.bounds.startAt host.nextPos, .skip :: host.calls,
          if_pos hadvance⟩
      · exact Or.inl ⟨host.bounds, host.calls, if_neg hadvance⟩
  | markEnd =>
      by_cases hmark : host.abilities.markEnd = true
      · exact Or.inl ⟨host.bounds.stopAt host.pos, .markEnd :: host.calls, if_pos hmark⟩
      · exact Or.inl ⟨host.bounds, host.calls, if_neg hmark⟩

theorem abilities_perform (call : HostCall) (host : UnitHost) :
    (call.perform host).abilities = host.abilities := by
  rcases perform_cases call host with ⟨_, _, heq⟩ | ⟨_, _, _, heq⟩
  · rw [heq]
  · rw [heq, sync]

theorem calls_perform {call : HostCall} (h : host.carriesOut call = true) :
    (call.perform host).calls = call :: host.calls := by
  cases call with
  | advance => exact congrArg calls (advance_of_canAdvance h)
  | skip => exact congrArg calls (skip_of_canAdvance h)
  | markEnd => exact congrArg calls (if_pos h)

theorem perform_of_missing {call : HostCall} (h : host.carriesOut call = false) :
    call.perform host = host := by
  cases call with
  | advance => exact if_neg (Bool.eq_false_iff.mp h)
  | skip => exact if_neg (Bool.eq_false_iff.mp h)
  | markEnd => exact if_neg (Bool.eq_false_iff.mp h)

theorem carriesOut_perform (call : HostCall) (host : UnitHost) :
    (call.perform host).carriesOut = host.carriesOut := by
  funext other
  cases other <;> simp only [carriesOut, abilities_perform]

/-- Of a list of operations the log gets those that the host has, and these alone do the
same to the host. -/
theorem logged_of_performs (h : Performs host calls after) :
    Performs host (calls.filter host.carriesOut) after ∧
      after.calls = (calls.filter host.carriesOut).reverse ++ host.calls := by
  induction h with
  | nil => exact ⟨Performs.nil, rfl⟩
  | @cons host after call calls hmoves _ ih =>
      rw [carriesOut_perform] at ih
      cases hcarries : host.carriesOut call with
      | true =>
          rw [calls_perform hcarries] at ih
          rw [List.filter_cons_of_pos hcarries, List.reverse_cons, List.append_assoc]
          exact ⟨Performs.cons hmoves ih.1, ih.2⟩
      | false =>
          rw [perform_of_missing hcarries] at ih
          rw [List.filter_cons_of_neg (Bool.eq_false_iff.mp hcarries)]
          exact ih

theorem calls_of_performs (h : Performs host calls after) (hadvance : host.CanAdvance)
    (hmark : host.CanMark) : after.calls = calls.reverse ++ host.calls := by
  have hall : calls.filter host.carriesOut = calls := by
    apply List.filter_eq_self.mpr
    intro call _
    cases call with
    | advance => exact hadvance
    | skip => exact hadvance
    | markEnd => exact hmark
  have hlogged := (logged_of_performs h).2
  rw [hall] at hlogged
  exact hlogged

end UnitHost

/-!
## Scans through the entry point

A scan that can start leaves the host as the attempt at a token left it, apart from the
symbol that it reports.
-/

namespace Entry

theorem scan_of_table {table : List Bool} {candidates : Candidates}
    (htable : Candidates.ofTable (table.take TokenKind.count) = .ok candidates)
    (scanner : Scanner) (host : UnitHost) :
    scan (some scanner) (some host) (some table) =
      (scanHost scanner candidates host).andThen fun produced host =>
        .done (some host) produced := by
  rw [scan, htable]

theorem scanHost_eq_attempt (scanner : Scanner) (candidates : Candidates) (host : UnitHost) :
    (scanHost scanner candidates host).result = (attempt candidates host).result.isSome ∧
      (scanHost scanner candidates host).stalled = (attempt candidates host).stalled ∧
        exists symbol, (scanHost scanner candidates host).host =
          { (attempt candidates host).host with symbol := symbol } := by
  rw [scanHost, Scanner.scan, scanToken]
  rcases attempt candidates host with ⟨kind?, after, events, stalled⟩
  cases kind? with
  | none => exact ⟨rfl, Bool.or_false stalled, after.symbol, rfl⟩
  | some kind => exact ⟨rfl, Bool.or_false stalled, kind.ordinal, rfl⟩

end Entry

theorem Candidates.exists_of_flags (ends opens : Bool) :
    exists candidates, ofTable ([ends, opens].take TokenKind.count) = .ok candidates ∧
      candidates.allows .semicolon = ends ∧ candidates.allows .blockComment = opens := by
  refine ⟨_, ofTable_cons_cons ends opens [], ?_⟩
  cases ends <;> cases opens <;> decide

theorem Stepwise.attempt_order {σ : Type} [LineHost σ] {P : σ -> Prop} (hP : Stepwise P)
    {host : σ} (h : P host) (candidates : Candidates) :
    exists log, Performs host log (attempt candidates host).host ∧
      CallOrder (candidates.allows .semicolon) (candidates.allows .blockComment)
        (attempt candidates host).result.isSome log := by
  cases hsemicolon : candidates.allows .semicolon with
  | true =>
      rcases hP.attempt_semicolon h hsemicolon with ⟨skips, hcalls⟩
      exact ⟨_, hcalls, CallOrder.semicolon _ _ skips⟩
  | false =>
      cases hcomment : candidates.allows .blockComment with
      | true =>
          rcases hP.attempt_comment h hsemicolon hcomment with
            ⟨skips, advances, hcalls, hleast⟩
          exact ⟨_, hcalls, CallOrder.comment _ skips advances hleast⟩
      | false =>
          rcases hP.attempt_neither h hsemicolon hcomment with ⟨⟨skips, hcalls⟩, hnone⟩
          rw [hnone]
          exact ⟨_, hcalls, CallOrder.nothing skips⟩

/-- One scan calls the operations of its host in order, whatever the host shows: no skip
comes behind a consumed character, nothing behind the mark of a comment, and no mark is
made by a comment that fails. -/
theorem scan_keeps_call_order (scanner : Scanner) (host : UnitHost)
    (hadvance : host.CanAdvance) (hmark : host.CanMark) (ends opens : Bool) :
    exists after log,
      (Entry.scan (some scanner) (some host) (some [ends, opens])).host = some after ∧
      (Entry.scan (some scanner) (some host) (some [ends, opens])).stalled = false ∧
      after.calls = log.reverse ++ host.calls ∧
      CallOrder ends opens
        (Entry.scan (some scanner) (some host) (some [ends, opens])).result log ∧
      (log.Pairwise fun earlier later => earlier = .advance -> later ≠ .skip) ∧
      (ends = false -> log.Pairwise fun earlier _ => earlier ≠ .markEnd) ∧
      (ends = false ->
        (Entry.scan (some scanner) (some host) (some [ends, opens])).result = false ->
          HostCall.markEnd ∉ log) := by
  rcases Candidates.exists_of_flags ends opens with
    ⟨candidates, htable, hsemicolon, hcomment⟩
  rcases UnitHost.stepwise.attempt_order hadvance candidates with ⟨log, hcalls, horder⟩
  rcases Entry.scanHost_eq_attempt scanner candidates host with
    ⟨hresult, hstalled, symbol, hhost⟩
  have hsettled := (UnitHost.lively.lockstep.attempt ⟨hadvance, rfl⟩ candidates).settled.1
  rw [hsemicolon, hcomment, ← hresult] at horder
  rw [← hstalled] at hsettled
  have hlog : (Entry.scanHost scanner candidates host).host.calls =
      log.reverse ++ host.calls := by
    have hlogged := UnitHost.calls_of_performs hcalls hadvance hmark
    rw [hhost]
    exact hlogged
  rw [Entry.scan_of_table htable]
  generalize Entry.scanHost scanner candidates host = outcome at hsettled horder hlog
  refine ⟨outcome.host, log, rfl, ?_, hlog, horder, horder.no_skip_behind_advance, ?_, ?_⟩
  · rw [← hsettled]
    exact Bool.or_false outcome.stalled
  · intro hends
    rw [hends] at horder
    exact horder.nothing_behind_mark
  · intro hends hfailed
    change outcome.result = false at hfailed
    rw [hends, hfailed] at horder
    exact horder.not_marked_of_failed

theorem scan_keeps_call_order_of_comment :
    (UnitHost.ofUnits #[32, 47, 42, -1, 42, 47]).CanAdvance ∧
      (UnitHost.ofUnits #[32, 47, 42, -1, 42, 47]).CanMark ∧
      exists after,
        (Entry.scan (some .fresh) (some (.ofUnits #[32, 47, 42, -1, 42, 47]))
          (some [false, true])).host = some after ∧
        CallOrder false true true after.calls.reverse ∧
        after.calls.reverse =
          [.skip, .advance, .advance, .advance, .advance, .advance, .markEnd] := by
  have hresult : (Entry.scan (some .fresh) (some (.ofUnits #[32, 47, 42, -1, 42, 47]))
      (some [false, true])).result = true := by
    decide +kernel
  have hcalls : (Entry.scan (some .fresh) (some (.ofUnits #[32, 47, 42, -1, 42, 47]))
      (some [false, true])).host.map (fun host => host.calls.reverse) =
        some [.skip, .advance, .advance, .advance, .advance, .advance, .markEnd] := by
    decide +kernel
  rcases scan_keeps_call_order .fresh (.ofUnits #[32, 47, 42, -1, 42, 47]) rfl rfl false true with
    ⟨after, log, hafter, _, hlog, horder, _⟩
  rw [hafter] at hcalls
  rw [hresult] at horder
  have hreverse : after.calls.reverse = log := by
    rw [hlog, List.reverse_append, List.reverse_reverse]
    rfl
  rw [← hreverse] at horder
  exact ⟨rfl, rfl, after, hafter, horder, Option.some.inj hcalls⟩

end StatementEnd
