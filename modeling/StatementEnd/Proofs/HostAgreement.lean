import Mathlib.Data.List.Forall2
import StatementEnd.Proofs.Mirror
import StatementEnd.Session.Text
import StatementEnd.Session.Units

/-!
# Both kinds of host agree on every run

The same steps, run on a text and through the entry point on the characters that are
kept of it, give the same answers, and after every step both hosts stand at the same
place with the same token. Positions are bytes on one side and characters on the other.
-/

namespace StatementEnd

open Text

/-- A step that both kinds of session can carry out, with positions in characters. -/
inductive SharedStep where
  | advance
  | skip
  | markEnd
  | seek (index : Nat)
  | semicolon
  | comment
  | filler
  | scan (semicolon comment : Bool)
  deriving DecidableEq, Repr

namespace SharedStep

/-- The step on a text, where a place is told by its byte offset and a scan is asked for
with a table. -/
def onText (text : String) : SharedStep -> TextStep
  | advance => .advance
  | skip => .skip
  | markEnd => .markEnd
  | seek index => .seek (offsetOf text index)
  | semicolon => .semicolon
  | comment => .comment
  | filler => .filler
  | scan ends opens => .scan (.table [ends, opens])

/-- The step on the characters, where a place is told by its index and a scan goes through
the entry point. -/
def onUnits : SharedStep -> UnitStep
  | advance => .advance
  | skip => .skip
  | markEnd => .markEnd
  | seek index => .seek index
  | semicolon => .semicolon
  | comment => .comment
  | filler => .filler
  | scan ends opens => .scan (some [ends, opens])

end SharedStep

/-- A session on a source whose range starts are given in the characters kept of it. -/
def TextSession.withRegions (source : String) (regions : List Nat) : TextSession :=
  { TextSession.ofString source with
    host := (TextHost.ofString source).withRegions (regions.map (offsetOf (kept source))) }

/-- A session on the characters of a text with a live scanner. -/
def UnitSession.withRegions (text : String) (regions : List Nat) : UnitSession where
  slot := Entry.create
  host := { UnitHost.ofString text with regions := regions }

/-- The same answer on both sides. A scan answers with a kind on a text, and with a flag
on the other side, where the kind is the symbol that was reported. -/
inductive SameReply (symbol : Nat) : TextReply -> UnitReply -> Prop where
  | nothing : SameReply symbol .nothing .nothing
  | flag (holds : Bool) :
      SameReply symbol (.verdict (.flag holds)) (.verdict (.flag holds))
  | produced (kind : TokenKind) : symbol = kind.ordinal ->
      SameReply symbol (.verdict (.token (some kind))) (.verdict (.flag true))
  | nothingProduced :
      SameReply symbol (.verdict (.token none)) (.verdict (.flag false))

/-- What can be seen of two hosts is the same, up to the unit of positions. -/
structure SameView (text : String) (a : TextHost) (b : UnitHost) : Prop where
  pos : a.pos = offsetOf text b.pos
  start : a.bounds.start = offsetOf text b.bounds.start
  stop : a.bounds.stop? = b.bounds.stop?.map (offsetOf text)
  lookahead : Host.lookahead a = Host.lookahead b
  atEnd : Host.atEnd a = Host.atEnd b
  atRegionStart : Host.atRegionStart a = Host.atRegionStart b
  span : a.span =
    { start := offsetOf text b.span.start, stop := offsetOf text b.span.stop }
  tokenText : a.tokenText = String.ofList
    ((text.toList.drop b.span.start).take (b.span.stop - b.span.start))

/-- One step had the same answer on both sides, neither was cut off, and both hosts were
left with the same view. -/
structure SameOutcome (text : String) (t : Outcome TextSession TextReply)
    (u : Outcome UnitSession UnitReply) : Prop where
  reply : SameReply u.host.host.symbol t.result u.result
  events : t.events = u.events
  settled : t.stalled = false ∧ u.stalled = false
  view : SameView text t.host.host u.host.host

/-!
## One step
-/

/-- What two sessions keep through every shared step. -/
structure Paired (text : String) (regions : List Nat) (t : TextSession) (u : UnitSession) :
    Prop where
  hosts : Mirrors text regions t.host u.host
  live : u.slot = some .fresh

variable {text : String} {regions : List Nat} {t : TextSession} {u : UnitSession}

theorem sameView_of_mirrors {a : TextHost} {b : UnitHost} (h : Mirrors text regions a b)
    (hregions : forall region, region ∈ regions -> region ≤ text.toList.length) :
    SameView text a b where
  pos := h.pos_eq
  start := h.start_eq
  stop := h.stop_eq
  lookahead := h.lookahead
  atEnd := h.atEnd
  atRegionStart := h.atRegionStart hregions
  span := h.span
  tokenText := h.tokenText

/-- The step had the same outcome and what is kept was kept. -/
def StepAgrees (text : String) (regions : List Nat) (t : Outcome TextSession TextReply)
    (u : Outcome UnitSession UnitReply) : Prop :=
  SameOutcome text t u ∧ Paired text regions t.host u.host

section Steps

variable (hregions : forall region, region ∈ regions -> region ≤ text.toList.length)

include hregions

theorem moved_agrees (h : Paired text regions t u) {a : TextHost} {b : UnitHost}
    (hmoved : Mirrors text regions a b) :
    StepAgrees text regions (t.moved a) (u.moved b) :=
  ⟨⟨SameReply.nothing, rfl, ⟨rfl, rfl⟩, sameView_of_mirrors hmoved hregions⟩, hmoved, h.live⟩

theorem call_agrees (h : Paired text regions t u) {routine : Routine}
    (hrun : Outcome.Agrees (Mirrors text regions) (routine.run t.host) (routine.run u.host))
    {holds : Bool} (hflag : (routine.run t.host).result = .flag holds) :
    StepAgrees text regions (t.call routine) (u.call routine) := by
  rw [TextSession.call, UnitSession.call]
  generalize routine.run t.host = left at hrun hflag
  generalize routine.run u.host = right at hrun
  have hflag' : right.result = .flag holds := by rw [← hrun.result, hflag]
  refine ⟨⟨?_, ?_, ?_, sameView_of_mirrors hrun.host hregions⟩, hrun.host, h.live⟩
  · change SameReply right.host.symbol (.verdict left.result) (.verdict right.result)
    rw [hflag, hflag']
    exact SameReply.flag holds
  · exact congrArg (· ++ []) hrun.events
  · show (left.stalled || false) = false ∧ (right.stalled || false) = false
    rw [Bool.or_false, Bool.or_false]
    exact hrun.settled

theorem scan_agrees (h : Paired text regions t u) (ends opens : Bool) :
    StepAgrees text regions (t.step (.scan (.table [ends, opens])))
      (u.scan (some u.host) (some [ends, opens])) := by
  have hset := Candidates.ofTable_cons_cons ends opens []
  generalize (Candidates.mk ((if ends then 1 else 0) ||| (if opens then 2 else 0))) = candidates
    at hset
  have hleft : t.step (.scan (.table [ends, opens])) = t.call (.scan candidates) := by
    rw [TextSession.step, Candidates.ofRequest, hset]
  have hright : Entry.scan u.slot (some u.host) (some [ends, opens]) =
      (Entry.scanHost .fresh candidates u.host).andThen fun produced host =>
        .done (some host) produced := by
    have htake : [ends, opens].take TokenKind.count = [ends, opens] := rfl
    rw [h.live, Entry.scan, htake, hset]
  have hscan := (Mirrors.lockstep text hregions).scanToken h.hosts candidates
  rw [hleft, UnitSession.scan, hright, TextSession.call, Routine.run, Entry.scanHost,
    Scanner.scan]
  generalize scanToken candidates t.host = left at hscan
  generalize scanToken candidates u.host = right at hscan
  rcases left with ⟨kind?, a, events, stalled⟩
  rcases right with ⟨kind?', b, events', stalled'⟩
  rcases hscan with ⟨hresult, hhost, hevents, hsettled⟩
  change kind? = kind?' at hresult
  change events = events' at hevents
  change stalled = false ∧ stalled' = false at hsettled
  rcases hsettled with ⟨hleftSettled, hrightSettled⟩
  subst hresult hevents hleftSettled hrightSettled
  cases kind? with
  | none =>
      refine ⟨⟨SameReply.nothingProduced, ?_, ?_, sameView_of_mirrors hhost hregions⟩,
        hhost, h.live⟩
      · simp [Outcome.andThen, Outcome.map, Outcome.done]
      · simp [Outcome.andThen, Outcome.map, Outcome.done]
  | some kind =>
      have hreported := hhost.setSymbol kind
      refine ⟨⟨SameReply.produced kind rfl, ?_, ?_, sameView_of_mirrors hreported hregions⟩,
        hreported, h.live⟩
      · simp [Outcome.andThen, Outcome.map, Outcome.done]
      · simp [Outcome.andThen, Outcome.map, Outcome.done]

theorem step_agrees (h : Paired text regions t u) (step : SharedStep) :
    StepAgrees text regions (t.step (step.onText text)) (u.step step.onUnits) := by
  have hclear : Paired text regions t { u with host := u.host.clearCalls } :=
    ⟨h.hosts.clearCalls, h.live⟩
  have hL := Mirrors.lockstep text hregions
  cases step with
  | advance => exact moved_agrees hregions hclear hclear.hosts.advance
  | skip => exact moved_agrees hregions hclear hclear.hosts.skip
  | markEnd => exact moved_agrees hregions hclear hclear.hosts.markEnd
  | seek index => exact moved_agrees hregions hclear (hclear.hosts.seek index)
  | semicolon => exact call_agrees hregions hclear (hL.run hclear.hosts .semicolon) rfl
  | comment => exact call_agrees hregions hclear (hL.run hclear.hosts .comment) rfl
  | filler => exact call_agrees hregions hclear (hL.run hclear.hosts .filler) rfl
  | scan ends opens => exact scan_agrees hregions hclear ends opens

end Steps

/-!
## Every run
-/

theorem paired_start (source : String) (regions : List Nat) :
    Paired (kept source) regions (TextSession.withRegions source regions)
      (UnitSession.withRegions (kept source) regions) :=
  ⟨Mirrors.start source regions, rfl⟩

theorem run_agrees (h : Paired text regions t u)
    (hregions : forall region, region ∈ regions -> region ≤ text.toList.length)
    (steps : List SharedStep) :
    List.Forall₂ (SameOutcome text) (t.run (steps.map (SharedStep.onText text)))
      (u.run (steps.map SharedStep.onUnits)) := by
  induction steps generalizing t u with
  | nil => exact List.Forall₂.nil
  | cons step steps ih =>
      rcases step_agrees hregions h step with ⟨hsame, hpaired⟩
      exact List.Forall₂.cons hsame (ih hpaired)

/-- Any run of shared steps gives the same answers and the same views on a source and on
the characters kept of it. -/
theorem hosts_agree_on_every_run (source : String) (regions : List Nat)
    (hregions : forall region, region ∈ regions -> region ≤ (kept source).toList.length)
    (steps : List SharedStep) :
    List.Forall₂ (SameOutcome (kept source))
      ((TextSession.withRegions source regions).run
        (steps.map (SharedStep.onText (kept source))))
      ((UnitSession.withRegions (kept source) regions).run (steps.map SharedStep.onUnits)) :=
  run_agrees (paired_start source regions) hregions steps

theorem hosts_agree_on_accented_run :
    kept "\u00e9\n /**/" = "\u00e9\n /**/" ∧
      (forall region, region ∈ [3] -> region ≤ "\u00e9\n /**/".toList.length) ∧
      List.Forall₂ (SameOutcome "\u00e9\n /**/")
        ((TextSession.withRegions "\u00e9\n /**/" [3]).run
          ([.advance, .scan true true, .seek 3, .comment].map
            (SharedStep.onText "\u00e9\n /**/")))
        ((UnitSession.withRegions "\u00e9\n /**/" [3]).run
          ([.advance, .scan true true, .seek 3, .comment].map SharedStep.onUnits)) := by
  have hregions : forall region, region ∈ [3] -> region ≤ "\u00e9\n /**/".toList.length := by
    decide
  have hkept : kept "\u00e9\n /**/" = "\u00e9\n /**/" := kept_of_fits (by decide +kernel)
  have hagree := hosts_agree_on_every_run "\u00e9\n /**/" [3]
  rw [hkept] at hagree
  exact ⟨hkept, hregions, hagree hregions [.advance, .scan true true, .seek 3, .comment]⟩

end StatementEnd
