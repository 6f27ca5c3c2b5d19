import StatementEnd.Scan

/-!
# Hosts that move

Every loop over a host goes on only while the host comes nearer to its end. On a
host that does so whenever it shows a character or is not at its end, no loop is
ever cut off, and each loop satisfies the equation that it would satisfy without
the test of the remaining steps.
-/

namespace StatementEnd

open Filler

variable {σ : Type}

/-- The host shows a character, or is not at its end. -/
def Host.Movable [Host σ] (host : σ) : Prop :=
  Host.lookahead host ≠ '\x00' ∨ Host.atEnd host = false

/-- A property of hosts that every operation keeps, and under which a movable host
comes nearer to its end with every character. -/
structure Lively [LineHost σ] (P : σ -> Prop) : Prop where
  advance : forall {host : σ}, P host -> P (Host.advance host)
  skip : forall {host : σ}, P host -> P (Host.skip host)
  markEnd : forall {host : σ}, P host -> P (Host.markEnd host)
  advance_lt : forall {host : σ}, P host -> Host.Movable host ->
    Host.remaining (Host.advance host) < Host.remaining host
  skip_lt : forall {host : σ}, P host -> Host.Movable host ->
    Host.remaining (Host.skip host) < Host.remaining host
  skipLine : forall {host : σ}, P host ->
    exists after : σ, LineHost.skipLine host = .done after () ∧ P after ∧
      Host.remaining after ≤ Host.remaining host

namespace Host

theorem movable_of_lookahead [Host σ] {host : σ} {c : Char}
    (h : Host.lookahead host = c) (hc : c ≠ '\x00') : Movable host := by
  apply Or.inl
  rw [h]
  exact hc

theorem movable_of_isSpace [Host σ] {host : σ}
    (h : isSpace (Host.lookahead host) = true) : Movable host := by
  apply Or.inl
  intro hnul
  rw [hnul] at h
  exact absurd h (by decide)

theorem movable_of_onBlank [Host σ] {host : σ} (h : Semicolon.onBlank host = true) :
    Movable host :=
  movable_of_isSpace (Semicolon.onBlank_eq_true.mp h).2.2.1

/-- A loop whose every step keeps a property and comes nearer to the end is not cut off. -/
theorem skipWhile_done [Host σ] {P : σ -> Prop} {test : σ -> Bool}
    (hstep : forall {host : σ}, P host -> test host = true ->
      P (skip host) ∧ remaining (skip host) < remaining host)
    {host : σ} (h : P host) :
    exists after : σ, skipWhile test host = .done after () ∧ P after ∧
      test after = false ∧ remaining after ≤ remaining host := by
  induction hn : remaining host using Nat.strongRecOn generalizing host with
  | ind n ih =>
      cases htest : test host with
      | true =>
          rcases hstep h htest with ⟨hskip, hlt⟩
          rw [skipWhile_of_moves test htest hlt]
          rw [hn] at hlt
          rcases ih _ hlt hskip rfl with ⟨after, hrun, hafter, hstop, hle⟩
          exact ⟨after, hrun, hafter, hstop, Nat.le_trans hle (Nat.le_of_lt hlt)⟩
      | false => exact ⟨host, skipWhile_of_not test htest, h, htest, Nat.le_of_eq hn⟩

end Host

namespace Lively

variable [LineHost σ] {P : σ -> Prop}

/-!
## Skipping while a test holds
-/

theorem skipWhile_eq (hP : Lively P) {test : σ -> Bool}
    (hmoves : forall {host : σ}, P host -> test host = true -> Host.Movable host)
    {host : σ} (h : P host) :
    Host.skipWhile test host =
      if test host then Host.skipWhile test (Host.skip host) else .done host () := by
  cases htest : test host with
  | true =>
      rw [Host.skipWhile_of_moves test htest (hP.skip_lt h (hmoves h htest))]
      rfl
  | false =>
      rw [Host.skipWhile_of_not test htest]
      rfl

theorem skipWhile_done (hP : Lively P) {test : σ -> Bool}
    (hmoves : forall {host : σ}, P host -> test host = true -> Host.Movable host)
    {host : σ} (h : P host) :
    exists after : σ, Host.skipWhile test host = .done after () ∧ P after ∧
      test after = false ∧ Host.remaining after ≤ Host.remaining host :=
  Host.skipWhile_done (fun hhost htest => ⟨hP.skip hhost, hP.skip_lt hhost (hmoves hhost htest)⟩) h

/-!
## Filler
-/

theorem skipSpaces_eq (hP : Lively P) {host : σ} (h : P host) :
    skipSpaces host =
      if isSpace (Host.lookahead host) then skipSpaces (Host.skip host)
      else .done host () :=
  hP.skipWhile_eq (fun _ htest => Host.movable_of_isSpace htest) h

theorem skipSpaces_done (hP : Lively P) {host : σ} (h : P host) :
    exists after : σ, skipSpaces host = .done after () ∧ P after ∧
      isSpace (Host.lookahead after) = false ∧
        Host.remaining after ≤ Host.remaining host :=
  hP.skipWhile_done (fun _ htest => Host.movable_of_isSpace htest) h

theorem skipBlockBody_done (hP : Lively P) {host : σ} (h : P host) :
    exists after : σ, skipBlockBody host = .done after () ∧ P after ∧
      Host.remaining after ≤ Host.remaining host := by
  have hmoves : forall {host : σ}, P host ->
      (!Host.atEnd host && !closesHere host) = true -> Host.Movable host := by
    intro host _ htest
    simp only [Bool.and_eq_true, Bool.not_eq_true'] at htest
    exact Or.inr htest.1
  rcases hP.skipWhile_done hmoves h with ⟨stop, hrun, hstop, htest, hle⟩
  rw [skipBlockBody, hrun, Outcome.andThen_done]
  cases hend : Host.atEnd stop with
  | true => exact ⟨stop, rfl, hstop, hle⟩
  | false =>
      simp only [hend, closesHere, Bool.not_false, Bool.true_and, Bool.not_eq_false',
        Bool.and_eq_true, beq_iff_eq] at htest
      have hfirst := hP.skip_lt hstop (Host.movable_of_lookahead htest.1 (by decide))
      have hsecond :=
        hP.skip_lt (hP.skip hstop) (Host.movable_of_lookahead htest.2 (by decide))
      refine ⟨Host.skip (Host.skip stop), rfl, hP.skip (hP.skip hstop), ?_⟩
      exact Nat.le_of_lt (Nat.lt_of_lt_of_le (Nat.lt_trans hsecond hfirst) hle)

theorem skipBlockBody_eq (hP : Lively P) {host : σ} (h : P host) :
    skipBlockBody host =
      if Host.atEnd host then .done host ()
      else if closesHere host then .done (Host.skip (Host.skip host)) ()
      else skipBlockBody (Host.skip host) := by
  have hmoves : forall {host : σ}, P host ->
      (!Host.atEnd host && !closesHere host) = true -> Host.Movable host := by
    intro host _ htest
    simp only [Bool.and_eq_true, Bool.not_eq_true'] at htest
    exact Or.inr htest.1
  rw [skipBlockBody, hP.skipWhile_eq hmoves h]
  cases hend : Host.atEnd host with
  | true => simp [hend]
  | false =>
      cases hcloses : closesHere host with
      | true => simp [hend]
      | false => rfl

theorem skipComment?_done (hP : Lively P) {host : σ} (h : P host) {comment : Outcome σ Unit}
    (hcomment : skipComment? host = some comment) :
    exists after : σ, comment = .done after () ∧ P after ∧
      Host.remaining after < Host.remaining host := by
  unfold skipComment? at hcomment
  by_cases hslash : Host.lookahead host = '/'
  · rw [if_pos hslash] at hcomment
    cases hcomment
    have hlt := hP.skip_lt h (Host.movable_of_lookahead hslash (by decide))
    rcases hP.skipLine (hP.skip h) with ⟨after, hrun, hafter, hle⟩
    exact ⟨after, hrun, hafter, Nat.lt_of_le_of_lt hle hlt⟩
  · rw [if_neg hslash] at hcomment
    by_cases hstar : Host.lookahead host = '*'
    · rw [if_pos hstar] at hcomment
      cases hcomment
      have hlt := hP.skip_lt h (Host.movable_of_lookahead hstar (by decide))
      rcases hP.skipBlockBody_done (hP.skip h) with ⟨after, hrun, hafter, hle⟩
      exact ⟨after, hrun, hafter, Nat.lt_of_le_of_lt hle hlt⟩
    · rw [if_neg hstar] at hcomment
      cases hcomment

/-- The comment behind leading spaces ends nearer to the end than the spaces start. -/
theorem comment_behind_spaces (hP : Lively P) {host : σ} (h : P host)
    (hslash : Host.lookahead (skipSpaces host).host = '/') {comment : Outcome σ Unit}
    (hcomment : skipComment? (Host.skip (skipSpaces host).host) = some comment) :
    exists after : σ, comment = .done after () ∧ P after ∧
      Host.remaining after < Host.remaining host := by
  rcases hP.skipSpaces_done h with ⟨spaces, hspaces, hkept, _, hle⟩
  rw [hspaces] at hslash hcomment
  rcases hP.skipComment?_done (hP.skip hkept) hcomment with ⟨after, hafter, hkept', hlt⟩
  have hskip := hP.skip_lt hkept (Host.movable_of_lookahead hslash (by decide))
  refine ⟨after, hafter, hkept', ?_⟩
  change Host.remaining after < Host.remaining (Host.skip spaces) at hlt
  omega

theorem skip_eq (hP : Lively P) {host : σ} (h : P host) :
    Filler.skip host =
      if Host.lookahead (skipSpaces host).host = '/' then
        match skipComment? (Host.skip (skipSpaces host).host) with
        | none => .done (Host.skip (skipSpaces host).host) false
        | some comment => Filler.skip comment.host
      else .done (skipSpaces host).host true := by
  have hbehind := @comment_behind_spaces _ _ _ hP _ h
  rcases hP.skipSpaces_done h with ⟨spaces, hspaces, _, _, _⟩
  rw [Filler.skip, hspaces]
  rw [hspaces] at hbehind
  by_cases hslash : Host.lookahead (Outcome.done spaces ()).host = '/'
  · rw [if_pos hslash, if_pos hslash]
    simp only [Outcome.host_done] at hslash hbehind ⊢
    cases hcomment : skipComment? (Host.skip spaces) with
    | none => rfl
    | some comment =>
        rcases hbehind hslash hcomment with ⟨after, hafter, _, hnearer⟩
        subst hafter
        simp only [Outcome.stalled_done, Outcome.host_done, Bool.or_self, Bool.false_eq_true,
          if_false]
        exact if_pos hnearer
  · rw [if_neg hslash, if_neg hslash]
    rfl

/-!
## The first line
-/

theorem readLine_done (hP : Lively P) {host : σ} (h : P host) :
    exists line : σ, Semicolon.readLine host = .done line (Semicolon.lineStop line) ∧ P line := by
  rcases hP.skipWhile_done (fun _ hblank => Host.movable_of_onBlank hblank) h with
    ⟨line, hrun, hline, _, _⟩
  rw [Semicolon.readLine, hrun]
  exact ⟨line, rfl, hline⟩

/-!
## Block comment tokens
-/

theorem readBody_eq (hP : Lively P) (afterStar : Bool) (depth : UInt32) {host : σ}
    (h : P host) :
    BlockComment.readBody afterStar depth host =
      if Host.atEnd host then
        (Outcome.done host false).report (.commentUnterminated depth)
      else
        let next := Host.lookahead host
        let step := Host.advance host
        if next == '/' && afterStar then
          (Outcome.done (Host.markEnd step) true).report (.commentClosed (depth - 1))
        else
          let opens := next == '/' && Host.lookahead step == '*'
          BlockComment.readBody (next == '*') (if opens then depth + 1 else depth)
            (if opens then Host.advance step else step) := by
  rw [BlockComment.readBody]
  cases hend : Host.atEnd host with
  | true => rfl
  | false =>
      have hstep := hP.advance_lt h (Or.inr hend)
      simp only [Bool.false_eq_true, if_false]
      by_cases hcloses : (Host.lookahead host == '/' && afterStar) = true
      · rw [if_pos hcloses, if_pos hcloses]
      · rw [if_neg hcloses, if_neg hcloses]
        apply dif_pos
        by_cases hopens :
            (Host.lookahead host == '/' && Host.lookahead (Host.advance host) == '*') = true
        · rw [if_pos hopens]
          simp only [Bool.and_eq_true, beq_iff_eq] at hopens
          have hstar :=
            hP.advance_lt (hP.advance h) (Host.movable_of_lookahead hopens.2 (by decide))
          exact Nat.lt_trans hstar hstep
        · rw [if_neg hopens]
          exact hstep

/-!
## What every routine keeps

A property that every operation keeps holds of the host that a routine leaves.
-/

section Kept

variable (hP : Lively P) {host : σ}

include hP

theorem kept_skipWhile {test : σ -> Bool}
    (hmoves : forall {host : σ}, test host = true -> Host.Movable host) (h : P host) :
    P (Host.skipWhile test host).host := by
  rcases hP.skipWhile_done (fun _ htest => hmoves htest) h with ⟨after, hrun, hafter, _, _⟩
  rw [hrun]
  exact hafter

theorem kept_skipSpaces (h : P host) : P (skipSpaces host).host :=
  hP.kept_skipWhile Host.movable_of_isSpace h

theorem kept_skipLine (h : P host) : P (LineHost.skipLine host).host := by
  rcases hP.skipLine h with ⟨after, hrun, hafter, _⟩
  rw [hrun]
  exact hafter

theorem kept_skipBlockBody (h : P host) : P (skipBlockBody host).host := by
  rcases hP.skipBlockBody_done h with ⟨after, hrun, hafter, _⟩
  rw [hrun]
  exact hafter

theorem kept_skipComment? (h : P host) {comment : Outcome σ Unit}
    (hcomment : skipComment? host = some comment) : P comment.host := by
  rcases hP.skipComment?_done h hcomment with ⟨after, hrun, hafter, _⟩
  rw [hrun]
  exact hafter

theorem kept_skip (h : P host) : P (Filler.skip host).host := by
  induction hn : Host.remaining host using Nat.strongRecOn generalizing host with
  | ind n ih =>
      have hspaces := hP.kept_skipSpaces h
      have hbehind := @comment_behind_spaces _ _ _ hP _ h
      rw [hP.skip_eq h]
      split
      · next hslash =>
          split
          · exact hP.skip hspaces
          · next comment hcomment =>
              rcases hbehind hslash hcomment with ⟨after, hafter, hkept, hlt⟩
              rw [hn] at hlt
              rw [hafter]
              exact ih _ hlt hkept rfl
      · exact hspaces

theorem kept_readBody (afterStar : Bool) (depth : UInt32) (h : P host) :
    P (BlockComment.readBody afterStar depth host).host := by
  induction hn : Host.remaining host using Nat.strongRecOn generalizing host afterStar depth with
  | ind n ih =>
      have hstep := hP.advance h
      rw [hP.readBody_eq afterStar depth h]
      cases hend : Host.atEnd host with
      | true => exact h
      | false =>
          have hlt := hP.advance_lt h (Or.inr hend)
          rw [hn] at hlt
          simp only [Bool.false_eq_true, if_false]
          split
          · exact hP.markEnd hstep
          · split
            · next hopens =>
                rw [Bool.and_eq_true, beq_iff_eq, beq_iff_eq] at hopens
                have hstar := Host.movable_of_lookahead hopens.2 (by decide)
                exact ih _ (Nat.lt_trans (hP.advance_lt hstep hstar) hlt) _ _
                  (hP.advance hstep) rfl
            · exact ih _ hlt _ _ hstep rfl

theorem kept_scanComment (h : P host) : P (BlockComment.scan host).host := by
  rw [BlockComment.scan]
  dsimp only
  split
  · split
    · exact hP.kept_readBody false 1 (hP.advance (hP.advance h))
    · exact hP.advance h
  · exact h

theorem kept_skipWord (letters : List Char) (h : P host) :
    P (Semicolon.skipWord letters host) := by
  induction letters generalizing host with
  | nil => exact h
  | cons letter letters ih =>
      rw [Semicolon.skipWord]
      split
      · exact ih (hP.skip h)
      · exact h

theorem kept_readsIn (h : P host) : P (Semicolon.readsIn host).host := by
  have hsecond := hP.skip h
  rw [Semicolon.readsIn]
  dsimp only
  split
  · split
    · exact hP.kept_skipWord _ (hP.skip hsecond)
    · exact hP.skip hsecond
  · exact hsecond

theorem kept_startsStatement (h : P host) : P (Semicolon.startsStatement host).host := by
  rw [Semicolon.startsStatement]
  dsimp only
  split
  · exact h
  · split
    · exact hP.skip h
    · split
      · exact hP.skip h
      · split
        · exact hP.kept_readsIn h
        · exact h

theorem kept_readNextLine (h : P host) : P (Semicolon.readNextLine host).host := by
  have hline := hP.kept_skip h
  rw [Semicolon.readNextLine]
  generalize Filler.skip host = filler at hline
  rcases filler with ⟨clear, line, events, stalled⟩
  cases clear with
  | true => exact hP.kept_startsStatement hline
  | false => exact hline

end Kept

/-- A property that hosts which move do not lose, beside the one under which they move. -/
theorem withInvariant (hP : Lively P) {I : σ -> Prop}
    (hadvance : forall {host : σ}, P host -> I host -> I (Host.advance host))
    (hskip : forall {host : σ}, P host -> I host -> I (Host.skip host))
    (hmark : forall {host : σ}, P host -> I host -> I (Host.markEnd host))
    (hline : forall {host : σ}, P host -> I host -> I (LineHost.skipLine host).host) :
    Lively fun host => P host ∧ I host where
  advance h := ⟨hP.advance h.1, hadvance h.1 h.2⟩
  skip h := ⟨hP.skip h.1, hskip h.1 h.2⟩
  markEnd h := ⟨hP.markEnd h.1, hmark h.1 h.2⟩
  advance_lt h := hP.advance_lt h.1
  skip_lt h := hP.skip_lt h.1
  skipLine := by
    intro host h
    rcases hP.skipLine h.1 with ⟨after, hrun, hafter, hle⟩
    have hkept := hline h.1 h.2
    rw [hrun] at hkept
    exact ⟨after, hrun, ⟨hafter, hkept⟩, hle⟩

/-- No host is where no host can be. -/
theorem never : Lively fun _ : σ => False where
  advance h := h
  skip h := h
  markEnd h := h
  advance_lt h := h.elim
  skip_lt h := h.elim
  skipLine h := h.elim

end Lively
end StatementEnd
