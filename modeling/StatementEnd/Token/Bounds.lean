/-!
# Token bounds

The bookkeeping for the token that is being read: where it starts, and where its
end was marked. A token whose end was never marked ends at the position of the
host, and a token whose start was moved past its end is empty at the end.
-/

namespace StatementEnd

/-- A stretch of positions, the second one excluded. -/
structure Span where
  start : Nat
  stop : Nat
  deriving DecidableEq, Repr

/-- The start of a token, and its end where one was marked. -/
structure TokenBounds where
  start : Nat := 0
  stop? : Option Nat := none
  deriving DecidableEq, Repr

namespace TokenBounds

def fresh (pos : Nat) : TokenBounds where
  start := pos

def startAt (bounds : TokenBounds) (pos : Nat) : TokenBounds :=
  { bounds with start := pos }

def stopAt (bounds : TokenBounds) (pos : Nat) : TokenBounds :=
  { bounds with stop? := some pos }

/-- The stretch of the token for a host at a position. -/
def span (bounds : TokenBounds) (pos : Nat) : Span :=
  let stop := bounds.stop?.getD pos
  { start := min bounds.start stop, stop := stop }

/-!
## Shape of a span
-/

theorem span_start_le_stop (bounds : TokenBounds) (pos : Nat) :
    (bounds.span pos).start ≤ (bounds.span pos).stop := by
  exact Nat.min_le_right _ _

@[simp] theorem span_fresh (pos now : Nat) :
    (fresh pos).span now = { start := min pos now, stop := now } := rfl

@[simp] theorem span_stopAt (bounds : TokenBounds) (pos now : Nat) :
    (bounds.stopAt pos).span now = { start := min bounds.start pos, stop := pos } := rfl

/-- Bounds whose positions are translated, in order, have the translated stretch. -/
theorem span_of_translated {a b : TokenBounds} {pos now : Nat} {translate : Nat -> Nat}
    (hmin : forall i j, translate (min i j) = min (translate i) (translate j))
    (hstart : a.start = translate b.start) (hstop : a.stop? = b.stop?.map translate)
    (hpos : pos = translate now) :
    a.span pos =
      { start := translate (b.span now).start, stop := translate (b.span now).stop } := by
  have hend : a.stop?.getD pos = translate (b.stop?.getD now) := by
    rw [hstop]
    cases b.stop? with
    | none => exact hpos
    | some stop => rfl
  rw [span, hend, hstart, ← hmin]
  rfl

end TokenBounds
end StatementEnd
