import StatementEnd.Proofs.Progress
import StatementEnd.Routine

/-!
# Hosts in lockstep

Two hosts, possibly of different kinds, run in lockstep under a relation that every
operation keeps and under which both show the same. A routine sees a host only through
its operations, so it is cut off on neither, answers the same on both and leaves related
hosts behind. The search for the end of a line, which a host may do its own way, is only
ever started right behind a skip, and no more is asked of it.

Less is needed. A host is only moved while it shows a character or is not at its end, so
the relation has to survive no other move. And where the left host cannot come back from
having passed some point, nothing is asked beyond it: a routine that leaves the left host
short of the point has never looked past it.
-/

namespace StatementEnd

open Filler

/-- Two outcomes with the same result and events on related hosts, neither cut off. -/
structure Outcome.Agrees {σ τ α : Type} (R : σ -> τ -> Prop) (a : Outcome σ α)
    (b : Outcome τ α) : Prop where
  result : a.result = b.result
  host : R a.host b.host
  events : a.events = b.events
  settled : a.stalled = false ∧ b.stalled = false

namespace Outcome.Agrees

variable {σ τ α β : Type} {σ' τ' : Type} {R : σ -> τ -> Prop} {S : σ' -> τ' -> Prop}
  {a : Outcome σ α} {b : Outcome τ α}

theorem done {host : σ} {host' : τ} (h : R host host') (result : α) :
    Agrees R (.done host result) (.done host' result) :=
  ⟨rfl, h, rfl, rfl, rfl⟩

theorem map (h : Agrees R a b) (change : α -> β) :
    Agrees R (a.map change) (b.map change) :=
  ⟨congrArg change h.result, h.host, h.events, h.settled⟩

theorem report (h : Agrees R a b) (event : Event) :
    Agrees R (a.report event) (b.report event) :=
  ⟨h.result, h.host, congrArg (· ++ [event]) h.events, h.settled⟩

theorem andThen (h : Agrees R a b) {next : α -> σ -> Outcome σ' β}
    {next' : α -> τ -> Outcome τ' β}
    (hrest : Agrees S (next a.result a.host) (next' a.result b.host)) :
    Agrees S (a.andThen next) (b.andThen next') := by
  constructor
  · change (next a.result a.host).result = (next' b.result b.host).result
    rw [← h.result]
    exact hrest.result
  · change S (next a.result a.host).host (next' b.result b.host).host
    rw [← h.result]
    exact hrest.host
  · change a.events ++ (next a.result a.host).events =
      b.events ++ (next' b.result b.host).events
    rw [← h.result, h.events, hrest.events]
  · show (a.stalled || (next a.result a.host).stalled) = false ∧
      (b.stalled || (next' b.result b.host).stalled) = false
    rw [h.settled.1, h.settled.2, hrest.settled.1, ← h.result, hrest.settled.2]
    exact ⟨rfl, rfl⟩

end Outcome.Agrees

/-- The left host got past a point, or the outcomes agree. -/
def Outcome.AgreesUntil {σ τ α : Type} (Past : σ -> Prop) (R : σ -> τ -> Prop)
    (a : Outcome σ α) (b : Outcome τ α) : Prop :=
  Past a.host ∨ Agrees R a b

namespace Outcome.AgreesUntil

variable {σ τ α β : Type} {Past : σ -> Prop} {R : σ -> τ -> Prop}
  {a : Outcome σ α} {b : Outcome τ α}

theorem of_past (h : Past a.host) : AgreesUntil Past R a b :=
  Or.inl h

theorem done {host : σ} {host' : τ} (h : R host host') (result : α) :
    AgreesUntil Past R (.done host result) (.done host' result) :=
  Or.inr (Agrees.done h result)

/-- Where one more step leads past the point or to related hosts. -/
theorem done_of_or {host : σ} {host' : τ} (h : Past host ∨ R host host') (result : α) :
    AgreesUntil Past R (.done host result) (.done host' result) := by
  rcases h with hpast | hrelated
  · exact of_past hpast
  · exact done hrelated result

theorem map (h : AgreesUntil Past R a b) (change : α -> β) :
    AgreesUntil Past R (a.map change) (b.map change) := by
  rcases h with hpast | hagrees
  · exact of_past hpast
  · exact Or.inr (hagrees.map change)

theorem report (h : AgreesUntil Past R a b) (event : Event) :
    AgreesUntil Past R (a.report event) (b.report event) := by
  rcases h with hpast | hagrees
  · exact of_past hpast
  · exact Or.inr (hagrees.report event)

/-- What follows must not bring the left host back. -/
theorem andThen (h : AgreesUntil Past R a b) {next : α -> σ -> Outcome σ β}
    {next' : α -> τ -> Outcome τ β}
    (hpast : forall result {host : σ}, Past host -> Past (next result host).host)
    (hnext : forall result {host : σ} {host' : τ}, R host host' ->
      AgreesUntil Past R (next result host) (next' result host')) :
    AgreesUntil Past R (a.andThen next) (b.andThen next') := by
  rcases h with hleft | hagrees
  · exact of_past (hpast a.result hleft)
  · rcases hnext a.result hagrees.host with hleft | hrest
    · exact of_past hleft
    · exact Or.inr (hagrees.andThen hrest)

end Outcome.AgreesUntil

open Outcome (Agrees AgreesUntil)

/-- Two loops whose every step keeps a relation and comes nearer to both ends. -/
theorem Host.skipWhile_agrees {σ τ : Type} [Host σ] [Host τ] {R : σ -> τ -> Prop}
    {test : σ -> Bool} {test' : τ -> Bool}
    (htest : forall {a : σ} {b : τ}, R a b -> test a = test' b)
    (hstep : forall {a : σ} {b : τ}, R a b -> test a = true ->
      R (skip a) (skip b) ∧ remaining (skip a) < remaining a ∧
        remaining (skip b) < remaining b)
    {a : σ} {b : τ} (h : R a b) : Agrees R (skipWhile test a) (skipWhile test' b) := by
  induction hn : remaining a using Nat.strongRecOn generalizing a b with
  | ind n ih =>
      cases hhere : test a with
      | true =>
          rcases hstep h hhere with ⟨hskip, hleft, hright⟩
          have hthere : test' b = true := by rw [← htest h, hhere]
          rw [skipWhile_of_moves test hhere hleft, skipWhile_of_moves test' hthere hright]
          rw [hn] at hleft
          exact ih _ hleft hskip rfl
      | false =>
          have hthere : test' b = false := by rw [← htest h, hhere]
          rw [skipWhile_of_not test hhere, skipWhile_of_not test' hthere]
          exact Agrees.done h ()

/-- Two walks to the end of a line, on hosts that move and show the same. -/
theorem Host.stepToLineEnd_agrees {σ τ : Type} [LineHost σ] [LineHost τ] {P : σ -> Prop}
    {Q : τ -> Prop} {R : σ -> τ -> Prop} (hP : Lively P) (hQ : Lively Q)
    (hleft : forall {a : σ} {b : τ}, R a b -> P a)
    (hright : forall {a : σ} {b : τ}, R a b -> Q b)
    (hlookahead : forall {a : σ} {b : τ}, R a b -> lookahead a = lookahead b)
    (hatEnd : forall {a : σ} {b : τ}, R a b -> atEnd a = atEnd b)
    (hskip : forall {a : σ} {b : τ}, R a b -> Movable a -> R (skip a) (skip b))
    {a : σ} {b : τ} (h : R a b) : Agrees R (stepToLineEnd a) (stepToLineEnd b) := by
  apply skipWhile_agrees ?_ ?_ h
  · intro a b hab
    rw [hatEnd hab, hlookahead hab]
  · intro a b hab htest
    rw [Bool.and_eq_true, Bool.not_eq_true'] at htest
    have hthere : atEnd b = false := by rw [← hatEnd hab, htest.1]
    exact ⟨hskip hab (Or.inr htest.1), hP.skip_lt (hleft hab) (Or.inr htest.1),
      hQ.skip_lt (hright hab) (Or.inr hthere)⟩

/-- A relation between hosts that move, under which both show the same. A character that is
consumed keeps it, unless it takes the left host past a point of no return. -/
structure LockstepUntil {σ τ : Type} [LineHost σ] [LineHost τ] (Past P : σ -> Prop)
    (Q : τ -> Prop) (R : σ -> τ -> Prop) : Prop where
  left : Lively P
  right : Lively Q
  past : Lively Past
  on_left : forall {a : σ} {b : τ}, R a b -> P a
  on_right : forall {a : σ} {b : τ}, R a b -> Q b
  lookahead : forall {a : σ} {b : τ}, R a b -> Host.lookahead a = Host.lookahead b
  atEnd : forall {a : σ} {b : τ}, R a b -> Host.atEnd a = Host.atEnd b
  atRegionStart : forall {a : σ} {b : τ}, R a b ->
    Host.atRegionStart a = Host.atRegionStart b
  advance : forall {a : σ} {b : τ}, R a b -> Host.Movable a ->
    Past (Host.advance a) ∨ R (Host.advance a) (Host.advance b)
  skip : forall {a : σ} {b : τ}, R a b -> Host.Movable a ->
    Past (Host.skip a) ∨ R (Host.skip a) (Host.skip b)
  markEnd : forall {a : σ} {b : τ}, R a b -> R (Host.markEnd a) (Host.markEnd b)
  skipLine : forall {a : σ} {b : τ}, R a b -> Host.Movable a ->
    AgreesUntil Past R (LineHost.skipLine (Host.skip a)) (LineHost.skipLine (Host.skip b))

namespace LockstepUntil

variable {σ τ : Type} [LineHost σ] [LineHost τ] {Past P : σ -> Prop} {Q : τ -> Prop}
  {R : σ -> τ -> Prop} {a : σ} {b : τ}

theorem movable (hL : LockstepUntil Past P Q R) (h : R a b) (hmovable : Host.Movable a) :
    Host.Movable b := by
  rw [Host.Movable, ← hL.lookahead h, ← hL.atEnd h]
  exact hmovable

theorem skipWhile (hL : LockstepUntil Past P Q R) {test : σ -> Bool} {test' : τ -> Bool}
    (htest : forall {a : σ} {b : τ}, R a b -> test a = test' b)
    (hmoves : forall {a : σ}, test a = true -> Host.Movable a) (h : R a b) :
    AgreesUntil Past R (Host.skipWhile test a) (Host.skipWhile test' b) := by
  induction hn : Host.remaining a using Nat.strongRecOn generalizing a b with
  | ind n ih =>
      cases hhere : test a with
      | true =>
          have hmovable := hmoves hhere
          have hthere : test' b = true := by rw [← htest h, hhere]
          have hleft := hL.left.skip_lt (hL.on_left h) hmovable
          have hright := hL.right.skip_lt (hL.on_right h) (hL.movable h hmovable)
          rw [Host.skipWhile_of_moves test hhere hleft,
            Host.skipWhile_of_moves test' hthere hright]
          rw [hn] at hleft
          rcases hL.skip h hmovable with hpast | hskip
          · exact AgreesUntil.of_past (hL.past.kept_skipWhile hmoves hpast)
          · exact ih _ hleft hskip rfl
      | false =>
          have hthere : test' b = false := by rw [← htest h, hhere]
          rw [Host.skipWhile_of_not test hhere, Host.skipWhile_of_not test' hthere]
          exact AgreesUntil.done h ()

/-!
## Filler
-/

theorem skipSpaces (hL : LockstepUntil Past P Q R) (h : R a b) :
    AgreesUntil Past R (Filler.skipSpaces a) (Filler.skipSpaces b) := by
  apply hL.skipWhile ?_ Host.movable_of_isSpace h
  intro a b hab
  rw [hL.lookahead hab]

/-- Whether a star closes is seen only behind it, so the loop and what follows it are taken
together: where that look leads past the point, so does either way to go on. -/
theorem skipBlockBody (hL : LockstepUntil Past P Q R) (h : R a b) :
    AgreesUntil Past R (Filler.skipBlockBody a) (Filler.skipBlockBody b) := by
  induction hn : Host.remaining a using Nat.strongRecOn generalizing a b with
  | ind n ih =>
      rw [hL.left.skipBlockBody_eq (hL.on_left h), hL.right.skipBlockBody_eq (hL.on_right h),
        ← hL.atEnd h]
      cases hend : Host.atEnd a with
      | true => exact AgreesUntil.done h ()
      | false =>
          have hmovable : Host.Movable a := Or.inr hend
          have hlt := hL.left.skip_lt (hL.on_left h) hmovable
          rw [hn] at hlt
          simp only [Bool.false_eq_true, if_false]
          rcases hL.skip h hmovable with hpast | hskip
          · apply AgreesUntil.of_past
            split
            · exact hL.past.skip hpast
            · exact hL.past.kept_skipBlockBody hpast
          · have hcloses : Filler.closesHere a = Filler.closesHere b := by
              rw [Filler.closesHere, Filler.closesHere, hL.lookahead h, hL.lookahead hskip]
            rw [← hcloses]
            split
            · next hclosed =>
                rw [Filler.closesHere, Bool.and_eq_true, beq_iff_eq, beq_iff_eq] at hclosed
                have hslash := Host.movable_of_lookahead hclosed.2 (by decide)
                exact AgreesUntil.done_of_or (hL.skip hskip hslash) ()
            · exact ih _ hlt hskip rfl

theorem skipComment? (hL : LockstepUntil Past P Q R) (h : R a b) :
    Option.Rel (AgreesUntil Past R) (Filler.skipComment? a) (Filler.skipComment? b) := by
  rw [Filler.skipComment?, Filler.skipComment?, ← hL.lookahead h]
  split
  · next hslash =>
      exact Option.Rel.some (hL.skipLine h (Host.movable_of_lookahead hslash (by decide)))
  · split
    · next hstar =>
        rcases hL.skip h (Host.movable_of_lookahead hstar (by decide)) with hpast | hskip
        · exact Option.Rel.some (AgreesUntil.of_past (hL.past.kept_skipBlockBody hpast))
        · exact Option.Rel.some (hL.skipBlockBody hskip)
    · exact Option.Rel.none

/-- Filler that starts with white space past the point ends past it. -/
theorem past_skipFiller (hL : LockstepUntil Past P Q R) (h : R a b)
    (hpast : Past (Filler.skipSpaces a).host) : Past (Filler.skip a).host := by
  rw [hL.left.skip_eq (hL.on_left h)]
  split
  · split
    · exact hL.past.skip hpast
    · next hcomment =>
        exact hL.past.kept_skip (hL.past.kept_skipComment? (hL.past.skip hpast) hcomment)
  · exact hpast

theorem skipFiller (hL : LockstepUntil Past P Q R) (h : R a b) :
    AgreesUntil Past R (Filler.skip a) (Filler.skip b) := by
  induction hn : Host.remaining a using Nat.strongRecOn generalizing a b with
  | ind n ih =>
      -- a comment behind the spaces is what brings the left host nearer to its end
      have hnearer := @Lively.comment_behind_spaces _ _ _ hL.left _ (hL.on_left h)
      rcases hL.skipSpaces h with hpast | hagrees
      · exact AgreesUntil.of_past (hL.past_skipFiller h hpast)
      · have hspaces := hagrees.host
        rw [hL.left.skip_eq (hL.on_left h), hL.right.skip_eq (hL.on_right h),
          ← hL.lookahead hspaces]
        split
        · next hslash =>
            rcases hL.skip hspaces (Host.movable_of_lookahead hslash (by decide)) with
              hpast | hbehind
            · apply AgreesUntil.of_past
              split
              · exact hpast
              · next hcomment =>
                  exact hL.past.kept_skip (hL.past.kept_skipComment? hpast hcomment)
            · have hcomment := hL.skipComment? hbehind
              generalize Filler.skipComment? (Host.skip (Filler.skipSpaces a).host) = left
                at hcomment hnearer
              generalize Filler.skipComment? (Host.skip (Filler.skipSpaces b).host) = right
                at hcomment
              cases hcomment with
              | none => exact AgreesUntil.done hbehind false
              | some hread =>
                  rcases hread with hpast | hsame
                  · exact AgreesUntil.of_past (hL.past.kept_skip hpast)
                  · rcases hnearer hslash rfl with ⟨after, hafter, _, hlt⟩
                    rw [hn] at hlt
                    subst hafter
                    exact ih _ hlt hsame.host rfl
        · exact AgreesUntil.done hspaces true

/-!
## Block comment tokens
-/

theorem readBody (hL : LockstepUntil Past P Q R) (h : R a b) (afterStar : Bool)
    (depth : UInt32) :
    AgreesUntil Past R (BlockComment.readBody afterStar depth a)
      (BlockComment.readBody afterStar depth b) := by
  induction hn : Host.remaining a using Nat.strongRecOn generalizing a b afterStar depth with
  | ind n ih =>
      rw [hL.left.readBody_eq afterStar depth (hL.on_left h),
        hL.right.readBody_eq afterStar depth (hL.on_right h), ← hL.atEnd h, ← hL.lookahead h]
      cases hend : Host.atEnd a with
      | true => exact (AgreesUntil.done h false).report _
      | false =>
          have hmovable : Host.Movable a := Or.inr hend
          have hlt := hL.left.advance_lt (hL.on_left h) hmovable
          rw [hn] at hlt
          simp only [Bool.false_eq_true, if_false]
          rcases hL.advance h hmovable with hpast | hstep
          · apply AgreesUntil.of_past
            split
            · exact hL.past.markEnd hpast
            · apply hL.past.kept_readBody
              split
              · exact hL.past.advance hpast
              · exact hpast
          · simp only [← hL.lookahead hstep]
            split
            · exact (AgreesUntil.done (hL.markEnd hstep) true).report _
            · split
              · next hopens =>
                  rw [Bool.and_eq_true, beq_iff_eq, beq_iff_eq] at hopens
                  have hstar := Host.movable_of_lookahead hopens.2 (by decide)
                  have hlt' := hL.left.advance_lt (hL.on_left hstep) hstar
                  rcases hL.advance hstep hstar with hpast | hinner
                  · exact AgreesUntil.of_past (hL.past.kept_readBody _ _ hpast)
                  · exact ih _ (Nat.lt_trans hlt' hlt) hinner _ _ rfl
              · exact ih _ hlt hstep _ _ rfl

theorem scanComment (hL : LockstepUntil Past P Q R) (h : R a b) :
    AgreesUntil Past R (BlockComment.scan a) (BlockComment.scan b) := by
  rw [BlockComment.scan, BlockComment.scan, ← hL.lookahead h]
  dsimp only
  split
  · next hslash =>
      rcases hL.advance h (Host.movable_of_lookahead hslash (by decide)) with hpast | hopening
      · apply AgreesUntil.of_past
        split
        · exact hL.past.kept_readBody _ _ (hL.past.advance hpast)
        · exact hpast
      · rw [← hL.lookahead hopening]
        split
        · next hstar =>
            rcases hL.advance hopening (Host.movable_of_lookahead hstar (by decide)) with
              hpast | hbody
            · exact AgreesUntil.of_past (hL.past.kept_readBody _ _ hpast)
            · exact hL.readBody hbody false 1
        · exact AgreesUntil.done hopening false
  · exact AgreesUntil.done h false

/-!
## The decision about a semicolon
-/

theorem lineStop (hL : LockstepUntil Past P Q R) (h : R a b) :
    Semicolon.lineStop a = Semicolon.lineStop b := by
  rw [Semicolon.lineStop, Semicolon.lineStop, hL.atEnd h, hL.lookahead h, hL.atRegionStart h]

theorem readLine (hL : LockstepUntil Past P Q R) (h : R a b) :
    AgreesUntil Past R (Semicolon.readLine a) (Semicolon.readLine b) := by
  have hblanks : AgreesUntil Past R (Host.skipWhile Semicolon.onBlank a)
      (Host.skipWhile Semicolon.onBlank b) := by
    apply hL.skipWhile ?_ Host.movable_of_onBlank h
    intro a b hab
    rw [Semicolon.onBlank, Semicolon.onBlank, hL.lineStop hab, hL.lookahead hab]
  apply hblanks.andThen
  · intro _ host hpast
    exact hpast
  · intro _ line line' hline
    rw [hL.lineStop hline]
    exact AgreesUntil.done hline _

theorem skipWord (hL : LockstepUntil Past P Q R) {letters : List Char}
    (hletters : '\x00' ∉ letters) (h : R a b) :
    Past (Semicolon.skipWord letters a) ∨
      R (Semicolon.skipWord letters a) (Semicolon.skipWord letters b) := by
  induction letters generalizing a b with
  | nil => exact Or.inr h
  | cons letter letters ih =>
      rw [List.mem_cons, not_or] at hletters
      rw [Semicolon.skipWord, Semicolon.skipWord, ← hL.lookahead h]
      split
      · next hletter =>
          rcases hL.skip h (Host.movable_of_lookahead hletter (Ne.symm hletters.1)) with
            hpast | hskip
          · exact Or.inl (hL.past.kept_skipWord letters hpast)
          · exact ih hletters.2 hskip
      · exact Or.inr h

theorem readsIn (hL : LockstepUntil Past P Q R) (h : R a b)
    (hword : Host.lookahead a = 'i') :
    AgreesUntil Past R (Semicolon.readsIn a) (Semicolon.readsIn b) := by
  rw [Semicolon.readsIn, Semicolon.readsIn]
  dsimp only
  rcases hL.skip h (Host.movable_of_lookahead hword (by decide)) with hpast | hsecond
  · apply AgreesUntil.of_past
    split
    · split
      · exact hL.past.kept_skipWord _ (hL.past.skip hpast)
      · exact hL.past.skip hpast
    · exact hpast
  · rw [← hL.lookahead hsecond]
    split
    · next hn =>
        rcases hL.skip hsecond (Host.movable_of_lookahead hn (by decide)) with hpast | hthird
        · apply AgreesUntil.of_past
          split
          · exact hL.past.kept_skipWord _ hpast
          · exact hpast
        · rw [← hL.lookahead hthird]
          split
          · exact AgreesUntil.done_of_or (hL.skipWord (by decide) hthird) false
          · exact AgreesUntil.done hthird true
    · exact AgreesUntil.done hsecond false

theorem startsStatement (hL : LockstepUntil Past P Q R) (h : R a b) :
    AgreesUntil Past R (Semicolon.startsStatement a) (Semicolon.startsStatement b) := by
  have hjudged : forall (judge : Char -> Bool), Host.Movable a ->
      AgreesUntil Past R (.done (Host.skip a) (judge (Host.lookahead (Host.skip a))))
        (.done (Host.skip b) (judge (Host.lookahead (Host.skip b)))) := by
    intro judge hmovable
    rcases hL.skip h hmovable with hpast | hskip
    · exact AgreesUntil.of_past hpast
    · rw [hL.lookahead hskip]
      exact AgreesUntil.done hskip _
  rw [Semicolon.startsStatement, Semicolon.startsStatement]
  dsimp only
  rw [← hL.lookahead h]
  split
  · exact AgreesUntil.done h false
  · split
    · next hsign =>
        apply hjudged (· == Host.lookahead a)
        rcases hsign with hplus | hminus
        · exact Host.movable_of_lookahead hplus (by decide)
        · exact Host.movable_of_lookahead hminus (by decide)
    · split
      · next hbang => exact hjudged (· != '=') (Host.movable_of_lookahead hbang (by decide))
      · split
        · next hword => exact (hL.readsIn h hword).map _
        · exact AgreesUntil.done h true

theorem readNextLine (hL : LockstepUntil Past P Q R) (h : R a b) :
    AgreesUntil Past R (Semicolon.readNextLine a) (Semicolon.readNextLine b) := by
  apply (hL.skipFiller h).andThen
  · intro clear host hpast
    cases clear with
    | true => exact hL.past.kept_startsStatement hpast
    | false => exact hpast
  · intro clear line line' hline
    cases clear with
    | true =>
        rcases hL.startsStatement hline with hpast | hjudged
        · exact AgreesUntil.of_past hpast
        · apply Or.inr
          dsimp only
          rw [← hL.lookahead hline, ← hjudged.result]
          exact hjudged.report _
    | false => exact (AgreesUntil.done hline false).report _

theorem scanSemicolon (hL : LockstepUntil Past P Q R) (h : R a b) :
    AgreesUntil Past R (Semicolon.scan a) (Semicolon.scan b) := by
  rcases hL.left.readLine_done (hL.left.markEnd (hL.on_left h)) with ⟨line, hrun, _⟩
  rcases hL.right.readLine_done (hL.right.markEnd (hL.on_right h)) with ⟨line', hrun', _⟩
  have hread := hL.readLine (hL.markEnd h)
  rw [hrun, hrun'] at hread
  rw [Semicolon.scan, Semicolon.scan, hrun, hrun', Outcome.andThen_done, Outcome.andThen_done]
  rcases hread with hpast | hagrees
  · apply AgreesUntil.of_past
    change Past line at hpast
    cases Semicolon.lineStop line with
    | boundary why => exact hpast
    | newline => exact hL.past.kept_readNextLine (hL.past.skip hpast)
    | content => exact hpast
  · have hline : R line line' := hagrees.host
    rw [← hL.lineStop hline]
    cases hstop : Semicolon.lineStop line with
    | boundary why => exact (AgreesUntil.done hline true).report _
    | newline =>
        have hnewline := (Semicolon.lineStop_newline_iff.mp hstop).2.2
        rcases hL.skip hline (Host.movable_of_lookahead hnewline (by decide)) with
          hpast | hskip
        · exact AgreesUntil.of_past (hL.past.kept_readNextLine hpast)
        · exact hL.readNextLine hskip
    | content => exact AgreesUntil.done hline false

/-!
## Scans
-/

theorem attempt (hL : LockstepUntil Past P Q R) (h : R a b) (candidates : Candidates) :
    AgreesUntil Past R (StatementEnd.attempt candidates a)
      (StatementEnd.attempt candidates b) := by
  rw [StatementEnd.attempt, StatementEnd.attempt]
  split
  · exact (hL.scanSemicolon h).map _
  · apply (hL.skipSpaces h).andThen
    · intro _ start hpast
      split
      · exact hL.past.kept_scanComment hpast
      · exact hpast
    · intro _ start start' hstart
      split
      · exact (hL.scanComment hstart).map _
      · exact AgreesUntil.done hstart none

theorem scanToken (hL : LockstepUntil Past P Q R) (h : R a b) (candidates : Candidates) :
    AgreesUntil Past R (StatementEnd.scanToken candidates a)
      (StatementEnd.scanToken candidates b) := by
  rcases hL.attempt h candidates with hpast | htried
  · exact AgreesUntil.of_past hpast
  · apply Or.inr
    rw [StatementEnd.scanToken, StatementEnd.scanToken, ← htried.result]
    exact htried.report _

/-- A routine that leaves the left host short of the point answers the same on both. -/
theorem run (hL : LockstepUntil Past P Q R) (h : R a b) (routine : Routine) :
    AgreesUntil Past R (routine.run a) (routine.run b) := by
  cases routine with
  | scan candidates => exact (hL.scanToken h candidates).map _
  | semicolon => exact (hL.scanSemicolon h).map _
  | comment => exact (hL.scanComment h).map _
  | filler => exact (hL.skipFiller h).map _

end LockstepUntil

/-!
## Lockstep throughout

Where every operation keeps the relation there is no point to pass.
-/

/-- A relation between hosts that move, kept by every operation, under which both show
the same. -/
structure Lockstep {σ τ : Type} [LineHost σ] [LineHost τ] (P : σ -> Prop) (Q : τ -> Prop)
    (R : σ -> τ -> Prop) : Prop where
  left : Lively P
  right : Lively Q
  on_left : forall {a : σ} {b : τ}, R a b -> P a
  on_right : forall {a : σ} {b : τ}, R a b -> Q b
  lookahead : forall {a : σ} {b : τ}, R a b -> Host.lookahead a = Host.lookahead b
  atEnd : forall {a : σ} {b : τ}, R a b -> Host.atEnd a = Host.atEnd b
  atRegionStart : forall {a : σ} {b : τ}, R a b ->
    Host.atRegionStart a = Host.atRegionStart b
  advance : forall {a : σ} {b : τ}, R a b -> R (Host.advance a) (Host.advance b)
  skip : forall {a : σ} {b : τ}, R a b -> R (Host.skip a) (Host.skip b)
  markEnd : forall {a : σ} {b : τ}, R a b -> R (Host.markEnd a) (Host.markEnd b)
  skipLine : forall {a : σ} {b : τ}, R a b ->
    Agrees R (LineHost.skipLine (Host.skip a)) (LineHost.skipLine (Host.skip b))

namespace Lockstep

variable {σ τ : Type} [LineHost σ] [LineHost τ] {P : σ -> Prop} {Q : τ -> Prop}
  {R : σ -> τ -> Prop} {a : σ} {b : τ}

theorem throughout (hL : Lockstep P Q R) : LockstepUntil (fun _ => False) P Q R where
  left := hL.left
  right := hL.right
  past := Lively.never
  on_left := hL.on_left
  on_right := hL.on_right
  lookahead := hL.lookahead
  atEnd := hL.atEnd
  atRegionStart := hL.atRegionStart
  advance h _ := Or.inr (hL.advance h)
  skip h _ := Or.inr (hL.skip h)
  markEnd := hL.markEnd
  skipLine h _ := Or.inr (hL.skipLine h)

theorem attempt (hL : Lockstep P Q R) (h : R a b) (candidates : Candidates) :
    Agrees R (StatementEnd.attempt candidates a) (StatementEnd.attempt candidates b) :=
  (hL.throughout.attempt h candidates).resolve_left not_false

theorem scanToken (hL : Lockstep P Q R) (h : R a b) (candidates : Candidates) :
    Agrees R (StatementEnd.scanToken candidates a) (StatementEnd.scanToken candidates b) :=
  (hL.throughout.scanToken h candidates).resolve_left not_false

/-- Every routine answers the same on hosts in lockstep. -/
theorem run (hL : Lockstep P Q R) (h : R a b) (routine : Routine) :
    Agrees R (routine.run a) (routine.run b) :=
  (hL.throughout.run h routine).resolve_left not_false

end Lockstep

/-!
## A host beside itself

Every host that moves is in lockstep with itself. No routine is therefore cut off on it,
and every routine leaves it with the property under which it moves.
-/

namespace Lively

variable {σ : Type} [LineHost σ] {P : σ -> Prop} {host : σ}

theorem lockstep (hP : Lively P) : Lockstep P P fun a b => P a ∧ a = b where
  left := hP
  right := hP
  on_left h := h.1
  on_right h := h.2 ▸ h.1
  lookahead h := congrArg _ h.2
  atEnd h := congrArg _ h.2
  atRegionStart h := congrArg _ h.2
  advance h := ⟨hP.advance h.1, congrArg _ h.2⟩
  skip h := ⟨hP.skip h.1, congrArg _ h.2⟩
  markEnd h := ⟨hP.markEnd h.1, congrArg _ h.2⟩
  skipLine := by
    intro a b h
    rcases h with ⟨ha, hab⟩
    subst hab
    rcases hP.skipLine (hP.skip ha) with ⟨after, hrun, hafter, _⟩
    rw [hrun]
    exact Agrees.done ⟨hafter, rfl⟩ ()

theorem settled_run (hP : Lively P) (h : P host) (routine : Routine) :
    (routine.run host).stalled = false :=
  (hP.lockstep.run ⟨h, rfl⟩ routine).settled.1

theorem kept_run (hP : Lively P) (h : P host) (routine : Routine) : P (routine.run host).host :=
  (hP.lockstep.run ⟨h, rfl⟩ routine).host.1

end Lively
end StatementEnd
