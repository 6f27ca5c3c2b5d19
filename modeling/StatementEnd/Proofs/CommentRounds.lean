import StatementEnd.Proofs.Progress

/-!
# Rounds through the body of a comment

The body of a comment is read in rounds. A round takes one character, or the two of an inner
opening, and unless the reading ends with it, it leads to exactly one further round, from
which on the reading is the same. What holds of the first round and is kept from one round
to the next therefore holds of every round, and so of the last one.
-/

namespace StatementEnd
namespace BlockComment

variable {σ : Type}

/-- Where a round through the body of a comment starts. -/
structure Round (σ : Type) where
  afterStar : Bool
  depth : UInt32
  host : σ

namespace Round

section Passing

variable [Host σ]

/-- The reading from a round on. -/
def read (round : Round σ) : Outcome σ Bool :=
  readBody round.afterStar round.depth round.host

/-- The round takes a slash that closes the comment. -/
def closes (round : Round σ) : Bool :=
  Host.lookahead round.host == '/' && round.afterStar

/-- The round takes both characters of an inner opening. -/
def opens (round : Round σ) : Bool :=
  Host.lookahead round.host == '/' && Host.lookahead (Host.advance round.host) == '*'

/-- Where the next round starts if the reading goes on. -/
def behind (round : Round σ) : Round σ where
  afterStar := Host.lookahead round.host == '*'
  depth := if round.opens then round.depth + 1 else round.depth
  host := if round.opens then Host.advance (Host.advance round.host) else Host.advance round.host

/-- The next round, unless the reading ends with this one. -/
def next? (round : Round σ) : Option (Round σ) :=
  if Host.atEnd round.host || round.closes then none else some round.behind

/-- The first round of the comment that opens at the position of a host. -/
def first (host : σ) : Round σ where
  afterStar := false
  depth := 1
  host := Host.advance (Host.advance host)

/-- The rounds that a reading passes. -/
inductive Passes (start : Round σ) : Round σ -> Prop where
  | start : Passes start start
  | next {round next : Round σ} :
      Passes start round -> round.next? = some next -> Passes start next

variable {start round next last : Round σ}

theorem Passes.keeps {I : Round σ -> Prop} (h : Passes start round) (hstart : I start)
    (hstep : forall {round next : Round σ}, I round -> round.next? = some next -> I next) :
    I round := by
  induction h with
  | start => exact hstart
  | next _ hnext ih => exact hstep ih hnext

theorem Passes.trans (h : Passes start round) (h' : Passes round last) :
    Passes start last := by
  induction h' with
  | start => exact h
  | next _ hnext ih => exact Passes.next ih hnext

/-!
## One round
-/

theorem next?_eq_some_iff : round.next? = some next <->
    Host.atEnd round.host = false ∧ round.closes = false ∧ next = round.behind := by
  rw [next?]
  cases Host.atEnd round.host <;> cases round.closes <;> simp [eq_comm]

theorem next?_eq_none_iff : round.next? = none <->
    Host.atEnd round.host = true ∨ round.closes = true := by
  rw [next?]
  cases Host.atEnd round.host <;> cases round.closes <;> simp

theorem behind_of_star (hstar : Host.lookahead round.host = '*') :
    round.behind = ⟨true, round.depth, Host.advance round.host⟩ := by
  rw [behind, opens, hstar]
  rfl

theorem behind_of_opening (hslash : Host.lookahead round.host = '/')
    (hstar : Host.lookahead (Host.advance round.host) = '*') :
    round.behind = ⟨false, round.depth + 1, Host.advance (Host.advance round.host)⟩ := by
  rw [behind, opens, hslash, hstar]
  rfl

theorem behind_of_other (hstar : Host.lookahead round.host ≠ '*')
    (hopens : round.opens = false) :
    round.behind = ⟨false, round.depth, Host.advance round.host⟩ := by
  rw [behind, hopens, beq_eq_false_iff_ne.mpr hstar]
  rfl

theorem scan_eq_first {host : σ} (hslash : Host.lookahead host = '/')
    (hstar : Host.lookahead (Host.advance host) = '*') : scan host = (first host).read := by
  rw [scan, if_pos hslash]
  exact if_pos hstar

end Passing

/-!
## Reading round by round
-/

section Reading

variable [LineHost σ] {P : σ -> Prop} {start round next : Round σ}

theorem read_of_next? (hP : Lively P) (h : P round.host) (hnext : round.next? = some next) :
    round.read = next.read := by
  rcases next?_eq_some_iff.mp hnext with ⟨hend, hcloses, hbehind⟩
  rw [read, hP.readBody_eq _ _ h, if_neg (Bool.eq_false_iff.mp hend), hbehind]
  exact if_neg (Bool.eq_false_iff.mp hcloses)

theorem read_of_last (hP : Lively P) (h : P round.host) (hlast : round.next? = none) :
    round.read =
      if Host.atEnd round.host then
        (Outcome.done round.host false).report (.commentUnterminated round.depth)
      else
        (Outcome.done (Host.markEnd (Host.advance round.host)) true).report
          (.commentClosed (round.depth - 1)) := by
  rw [read, hP.readBody_eq _ _ h]
  rcases next?_eq_none_iff.mp hlast with hend | hcloses
  · rw [if_pos hend, if_pos hend]
  · exact congrArg (ite _ _) (if_pos hcloses)

theorem kept_next (hP : Lively P) (h : P round.host) (hnext : round.next? = some next) :
    P next.host ∧ Host.remaining next.host < Host.remaining round.host := by
  rcases next?_eq_some_iff.mp hnext with ⟨hend, _, hbehind⟩
  have hstep := hP.advance h
  have hlt := hP.advance_lt h (Or.inr hend)
  rw [hbehind, behind]
  dsimp only
  split
  · next hopens =>
      rw [opens, Bool.and_eq_true, beq_iff_eq, beq_iff_eq] at hopens
      have hstar := Host.movable_of_lookahead hopens.2 (by decide)
      exact ⟨hP.advance hstep, Nat.lt_trans (hP.advance_lt hstep hstar) hlt⟩
  · exact ⟨hstep, hlt⟩

/-- A reading passes a last round, and from there on it is the same. -/
theorem exists_last (hP : Lively P) (h : P start.host) :
    exists last, Passes start last ∧ last.next? = none ∧ start.read = last.read := by
  -- every next round is nearer to the end
  induction hn : Host.remaining start.host using Nat.strongRecOn generalizing start with
  | ind n ih =>
      cases hnext : start.next? with
      | none => exact ⟨start, Passes.start, hnext, rfl⟩
      | some next =>
          rcases kept_next hP h hnext with ⟨hkept, hlt⟩
          rw [hn] at hlt
          rcases ih _ hlt hkept rfl with ⟨last, hpasses, hlast, hread⟩
          refine ⟨last, (Passes.next Passes.start hnext).trans hpasses, hlast, ?_⟩
          rw [read_of_next? hP h hnext, hread]

theorem read_of_passes (hP : Lively P) (h : P start.host) (hpasses : Passes start round) :
    P round.host ∧ start.read = round.read := by
  induction hpasses with
  | start => exact ⟨h, rfl⟩
  | next _ hnext ih =>
      rcases ih with ⟨hround, hread⟩
      exact ⟨(kept_next hP hround hnext).1, hread.trans (read_of_next? hP hround hnext)⟩

end Reading

end Round
end BlockComment
end StatementEnd
