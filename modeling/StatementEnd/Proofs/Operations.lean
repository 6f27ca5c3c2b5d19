import StatementEnd.Host.Units
import StatementEnd.Proofs.Lockstep

/-!
# The operations of a routine

What a routine does to a host is a list of operations, and a character is consumed in it
only while the host can still move. Skipping filler and judging a line are lists of skips;
a scan for a semicolon has a mark in front of them, and a block comment is a list of
consumed characters with a mark behind them if it was closed.
-/

namespace StatementEnd

open Filler

/-- Carries out an operation on a host. -/
def HostCall.perform {σ : Type} [Host σ] : HostCall -> σ -> σ
  | .advance => Host.advance
  | .skip => Host.skip
  | .markEnd => Host.markEnd

/-- Whether an operation consumes a character, as part of the token or not. -/
def HostCall.consumes : HostCall -> Bool
  | .advance | .skip => true
  | .markEnd => false

/-- The operations that take one host to another. -/
inductive Performs {σ : Type} [Host σ] : σ -> List HostCall -> σ -> Prop where
  | nil {host : σ} : Performs host [] host
  | cons {host after : σ} {call : HostCall} {calls : List HostCall} :
      (call.consumes = true -> Host.Movable host) ->
      Performs (call.perform host) calls after -> Performs host (call :: calls) after

/-- Nothing but skips takes one host to another. -/
def Skips {σ : Type} [Host σ] (host after : σ) : Prop :=
  exists count, Performs host (List.replicate count .skip) after

/-- A property of hosts under which they move, and reach the end of a line by skips. The
search for that end is only ever started behind a skip. -/
structure Stepwise {σ : Type} [LineHost σ] (P : σ -> Prop) : Prop where
  lively : Lively P
  line : forall {host : σ}, P host ->
    Skips (Host.skip host) (LineHost.skipLine (Host.skip host)).host

/-!
## Lists of operations
-/

section Lists

variable {σ : Type} [Host σ] {host middle after : σ} {calls calls' : List HostCall}

theorem performs_append (h : Performs host calls middle) (h' : Performs middle calls' after) :
    Performs host (calls ++ calls') after := by
  induction h with
  | nil => exact h'
  | cons hmoves _ ih => exact Performs.cons hmoves (ih h')

theorem performs_advance (hmovable : Host.Movable host)
    (h : Performs (Host.advance host) calls after) :
    Performs host (.advance :: calls) after :=
  Performs.cons (fun _ => hmovable) h

theorem performs_skip (hmovable : Host.Movable host)
    (h : Performs (Host.skip host) calls after) :
    Performs host (.skip :: calls) after :=
  Performs.cons (fun _ => hmovable) h

theorem performs_markEnd (h : Performs (Host.markEnd host) calls after) :
    Performs host (.markEnd :: calls) after :=
  Performs.cons (fun hconsumes => Bool.noConfusion hconsumes) h

namespace Skips

theorem refl (host : σ) : Skips host host :=
  ⟨0, Performs.nil⟩

theorem trans (h : Skips host middle) (h' : Skips middle after) : Skips host after := by
  rcases h with ⟨count, hfirst⟩
  rcases h' with ⟨count', hsecond⟩
  refine ⟨count + count', ?_⟩
  rw [← List.replicate_append_replicate]
  exact performs_append hfirst hsecond

theorem skip (hmovable : Host.Movable host) (h : Skips (Host.skip host) after) :
    Skips host after := by
  rcases h with ⟨count, hrest⟩
  exact ⟨count + 1, performs_skip hmovable hrest⟩

theorem of_lookahead {c : Char} (hc : Host.lookahead host = c) (hshows : c ≠ '\x00')
    (h : Skips (Host.skip host) after) : Skips host after :=
  skip (Host.movable_of_lookahead hc hshows) h

end Skips
end Lists

theorem Lively.skips_skipWhile {σ : Type} [LineHost σ] {P : σ -> Prop} (hP : Lively P)
    {test : σ -> Bool}
    (hmoves : forall {host : σ}, P host -> test host = true -> Host.Movable host)
    {host : σ} (h : P host) : Skips host (Host.skipWhile test host).host := by
  induction hn : Host.remaining host using Nat.strongRecOn generalizing host with
  | ind n ih =>
      cases htest : test host with
      | true =>
          have hmovable := hmoves h htest
          have hlt := hP.skip_lt h hmovable
          rw [Host.skipWhile_of_moves test htest hlt]
          rw [hn] at hlt
          exact Skips.skip hmovable (ih _ hlt (hP.skip h) rfl)
      | false =>
          rw [Host.skipWhile_of_not test htest]
          exact Skips.refl host

theorem Lively.skips_stepToLineEnd {σ : Type} [LineHost σ] {P : σ -> Prop} (hP : Lively P)
    {host : σ} (h : P host) : Skips host (Host.stepToLineEnd host).host := by
  apply hP.skips_skipWhile ?_ h
  intro host _ htest
  rw [Bool.and_eq_true, Bool.not_eq_true'] at htest
  exact Or.inr htest.1

namespace Stepwise

variable {σ : Type} [LineHost σ] {P : σ -> Prop} {host : σ}

/-!
## Filler
-/

theorem skipSpaces (hP : Stepwise P) (h : P host) : Skips host (skipSpaces host).host :=
  hP.lively.skips_skipWhile (fun _ hspace => Host.movable_of_isSpace hspace) h

theorem skipBlockBody (hP : Stepwise P) (h : P host) :
    Skips host (skipBlockBody host).host := by
  have hmoves : forall {host : σ}, P host ->
      (!Host.atEnd host && !closesHere host) = true -> Host.Movable host := by
    intro host _ htest
    rw [Bool.and_eq_true, Bool.not_eq_true'] at htest
    exact Or.inr htest.1
  have hbody := hP.lively.skips_skipWhile hmoves h
  rcases hP.lively.skipWhile_done hmoves h with ⟨stop, hrun, _, htest, _⟩
  rw [hrun] at hbody
  rw [Filler.skipBlockBody, hrun, Outcome.andThen_done]
  cases hend : Host.atEnd stop with
  | true => exact hbody
  | false =>
      simp only [hend, closesHere, Bool.not_false, Bool.true_and, Bool.not_eq_false',
        Bool.and_eq_true, beq_iff_eq] at htest
      apply hbody.trans
      apply Skips.of_lookahead htest.1 (by decide)
      exact Skips.of_lookahead htest.2 (by decide) (Skips.refl _)

theorem skipComment? (hP : Stepwise P) (h : P host) {comment : Outcome σ Unit}
    (hcomment : skipComment? host = some comment) : Skips host comment.host := by
  unfold Filler.skipComment? at hcomment
  by_cases hslash : Host.lookahead host = '/'
  · rw [if_pos hslash] at hcomment
    cases hcomment
    exact Skips.of_lookahead hslash (by decide) (hP.line h)
  · rw [if_neg hslash] at hcomment
    by_cases hstar : Host.lookahead host = '*'
    · rw [if_pos hstar] at hcomment
      cases hcomment
      exact Skips.of_lookahead hstar (by decide) (hP.skipBlockBody (hP.lively.skip h))
    · rw [if_neg hstar] at hcomment
      cases hcomment

/-- Filler is skipped and nothing else is done to the host. -/
theorem skipFiller (hP : Stepwise P) (h : P host) : Skips host (Filler.skip host).host := by
  induction hn : Host.remaining host using Nat.strongRecOn generalizing host with
  | ind n ih =>
      have hspaces := hP.skipSpaces h
      have hkept := hP.lively.kept_skipSpaces h
      have hbehind := @Lively.comment_behind_spaces _ _ _ hP.lively _ h
      rw [hP.lively.skip_eq h]
      split
      · next hslash =>
          have hfirst : forall {after : σ}, Skips (Host.skip (Filler.skipSpaces host).host) after ->
              Skips host after :=
            fun hrest => hspaces.trans (Skips.of_lookahead hslash (by decide) hrest)
          split
          · exact hfirst (Skips.refl _)
          · next comment hcomment =>
              rcases hbehind hslash hcomment with ⟨after, hafter, hrest, hlt⟩
              rw [hn] at hlt
              have hskipped := hP.skipComment? (hP.lively.skip hkept) hcomment
              subst hafter
              exact hfirst (hskipped.trans (ih _ hlt hrest rfl))
      · exact hspaces

/-!
## The decision about a semicolon
-/

theorem readLine (hP : Stepwise P) (h : P host) :
    Skips host (Semicolon.readLine host).host :=
  hP.lively.skips_skipWhile (fun _ hblank => Host.movable_of_onBlank hblank) h

theorem skipWord (letters : List Char) (hletters : '\x00' ∉ letters) (host : σ) :
    Skips host (Semicolon.skipWord letters host) := by
  induction letters generalizing host with
  | nil => exact Skips.refl host
  | cons letter letters ih =>
      rw [List.mem_cons, not_or] at hletters
      rw [Semicolon.skipWord]
      split
      · next hletter => exact Skips.of_lookahead hletter (Ne.symm hletters.1) (ih hletters.2 _)
      · exact Skips.refl host

theorem readsIn (hword : Host.lookahead host = 'i') :
    Skips host (Semicolon.readsIn host).host := by
  apply Skips.of_lookahead hword (by decide)
  rw [Semicolon.readsIn]
  dsimp only
  split
  · next hsecond =>
      apply Skips.of_lookahead hsecond (by decide)
      split
      · exact skipWord _ (by decide) _
      · exact Skips.refl _
  · exact Skips.refl _

theorem startsStatement (host : σ) : Skips host (Semicolon.startsStatement host).host := by
  rw [Semicolon.startsStatement]
  dsimp only
  split
  · exact Skips.refl host
  · split
    · next hsign =>
        rcases hsign with hplus | hminus
        · exact Skips.of_lookahead hplus (by decide) (Skips.refl _)
        · exact Skips.of_lookahead hminus (by decide) (Skips.refl _)
    · split
      · next hbang => exact Skips.of_lookahead hbang (by decide) (Skips.refl _)
      · split
        · next hword => exact readsIn hword
        · exact Skips.refl host

theorem readNextLine (hP : Stepwise P) (h : P host) :
    Skips host (Semicolon.readNextLine host).host := by
  have hfiller := hP.skipFiller h
  rw [Semicolon.readNextLine]
  generalize Filler.skip host = filler at hfiller
  rcases filler with ⟨clear, line, events, stalled⟩
  cases clear with
  | true => exact hfiller.trans (startsStatement line)
  | false => exact hfiller

/-- The end of the token is marked first, and skips are all that follows. -/
theorem scanSemicolon (hP : Stepwise P) (h : P host) :
    exists count, Performs host (.markEnd :: List.replicate count .skip)
      (Semicolon.scan host).host := by
  have hmarked := hP.lively.markEnd h
  have hline := hP.readLine hmarked
  rcases hP.lively.readLine_done hmarked with ⟨line, hrun, hkept⟩
  rw [hrun] at hline
  have hall : Skips (Host.markEnd host) (Semicolon.scan host).host := by
    rw [Semicolon.scan, hrun, Outcome.andThen_done]
    cases hstop : Semicolon.lineStop line with
    | boundary why => exact hline
    | newline =>
        have hnewline := (Semicolon.lineStop_newline_iff.mp hstop).2.2
        apply hline.trans
        exact Skips.of_lookahead hnewline (by decide) (hP.readNextLine (hP.lively.skip hkept))
    | content => exact hline
  rcases hall with ⟨count, hskips⟩
  exact ⟨count, performs_markEnd hskips⟩

/-!
## Block comment tokens

Each character of a comment is consumed. A mark follows exactly when the comment was
closed, which takes two characters behind the opening, or one behind a star.
-/

/-- The host was left by consuming characters, with a mark behind them on success. -/
def Consumes (host : σ) (least : Nat) (outcome : Outcome σ Bool) : Prop :=
  exists count,
    Performs host
      (List.replicate count .advance ++ if outcome.result then [.markEnd] else []) outcome.host ∧
    (outcome.result = true -> least ≤ count)

theorem consumes_failed (host : σ) (least : Nat) : Consumes host least (.done host false) :=
  ⟨0, Performs.nil, fun hclosed => Bool.noConfusion hclosed⟩

theorem consumes_closed (host : σ) : Consumes host 0 (.done (Host.markEnd host) true) :=
  ⟨0, performs_markEnd Performs.nil, fun _ => Nat.le_refl 0⟩

theorem consumes_advance {least least' : Nat} {outcome : Outcome σ Bool}
    (hmovable : Host.Movable host) (hle : least ≤ least' + 1)
    (h : Consumes (Host.advance host) least' outcome) : Consumes host least outcome := by
  rcases h with ⟨count, hperforms, hleast⟩
  refine ⟨count + 1, performs_advance hmovable hperforms, ?_⟩
  intro hclosed
  exact Nat.le_trans hle (Nat.succ_le_succ (hleast hclosed))

theorem readBody (hP : Stepwise P) (h : P host) (afterStar : Bool) (depth : UInt32) :
    Consumes host (if afterStar then 1 else 2) (BlockComment.readBody afterStar depth host) := by
  induction hn : Host.remaining host using Nat.strongRecOn generalizing host afterStar depth with
  | ind n ih =>
      have hstep := hP.lively.advance h
      rw [hP.lively.readBody_eq afterStar depth h]
      cases hend : Host.atEnd host with
      | true => exact consumes_failed host _
      | false =>
          have hmovable : Host.Movable host := Or.inr hend
          have hlt := hP.lively.advance_lt h hmovable
          rw [hn] at hlt
          simp only [Bool.false_eq_true, if_false]
          by_cases hcloses : (Host.lookahead host == '/' && afterStar) = true
          · rw [if_pos hcloses, if_pos (Bool.and_eq_true_iff.mp hcloses).2]
            exact consumes_advance hmovable (Nat.le_refl 1) (consumes_closed _)
          · have htwo : (if afterStar = true then 1 else 2) ≤ 2 := by split <;> decide
            rw [if_neg hcloses]
            by_cases hopens :
                (Host.lookahead host == '/' && Host.lookahead (Host.advance host) == '*') = true
            · rw [if_pos hopens, if_pos hopens]
              rw [Bool.and_eq_true, beq_iff_eq, beq_iff_eq] at hopens
              have hstar := Host.movable_of_lookahead hopens.2 (by decide)
              have hlt' := Nat.lt_trans (hP.lively.advance_lt hstep hstar) hlt
              have hrest := ih _ hlt' (hP.lively.advance hstep) false (depth + 1) rfl
              rw [hopens.1]
              apply consumes_advance hmovable htwo
              exact consumes_advance hstar (by decide) hrest
            · rw [if_neg hopens, if_neg hopens]
              have hrest := ih _ hlt hstep (Host.lookahead host == '*') depth rfl
              apply consumes_advance hmovable (Nat.le_trans htwo ?_) hrest
              split <;> decide

theorem scanComment (hP : Stepwise P) (h : P host) :
    Consumes host 4 (BlockComment.scan host) := by
  rw [BlockComment.scan]
  split
  · next hslash =>
      apply consumes_advance (Host.movable_of_lookahead hslash (by decide)) (Nat.le_refl 4)
      dsimp only
      split
      · next hstar =>
          apply consumes_advance (Host.movable_of_lookahead hstar (by decide)) (Nat.le_refl 3)
          exact hP.readBody (hP.lively.advance (hP.lively.advance h)) false 1
      · exact consumes_failed _ 3
  · exact consumes_failed host 4

/-!
## Scans
-/

theorem attempt_semicolon (hP : Stepwise P) (h : P host) {candidates : Candidates}
    (hsemicolon : candidates.allows .semicolon = true) :
    exists count, Performs host (.markEnd :: List.replicate count .skip)
      (attempt candidates host).host := by
  rw [attempt_of_semicolon host hsemicolon]
  exact hP.scanSemicolon h

/-- Without the semicolon, white space is skipped and a comment is consumed behind it. -/
theorem attempt_comment (hP : Stepwise P) (h : P host) {candidates : Candidates}
    (hsemicolon : candidates.allows .semicolon = false)
    (hcomment : candidates.allows .blockComment = true) :
    exists skips advances,
      Performs host
        (List.replicate skips .skip ++ (List.replicate advances .advance ++
          if (attempt candidates host).result.isSome then [.markEnd] else []))
        (attempt candidates host).host ∧
      ((attempt candidates host).result.isSome = true -> 4 ≤ advances) := by
  rcases hP.skipSpaces h with ⟨skips, hspaces⟩
  have hkept := hP.lively.kept_skipSpaces h
  rcases hP.scanComment hkept with ⟨advances, hconsumed, hleast⟩
  have hsome : (attempt candidates host).result.isSome =
      (BlockComment.scan (Filler.skipSpaces host).host).result := by
    rw [attempt_of_comment host hsemicolon hcomment]
    cases hclosed : (BlockComment.scan (Filler.skipSpaces host).host).result <;>
      simp [Outcome.andThen, hclosed]
  rw [hsome, attempt_of_comment host hsemicolon hcomment]
  exact ⟨skips, advances, performs_append hspaces hconsumed, hleast⟩

theorem attempt_neither (hP : Stepwise P) (h : P host) {candidates : Candidates}
    (hsemicolon : candidates.allows .semicolon = false)
    (hcomment : candidates.allows .blockComment = false) :
    Skips host (attempt candidates host).host ∧ (attempt candidates host).result = none := by
  rw [attempt_of_neither host hsemicolon hcomment]
  exact ⟨hP.skipSpaces h, rfl⟩

end Stepwise
end StatementEnd
