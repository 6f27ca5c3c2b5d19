import StatementEnd.Proofs.SessionRuns
import StatementEnd.Proofs.Walk

/-!
# Where tokens lie

However the steps of a session are mixed, the token that is being read starts and ends
no later than its host stands. No step of a host splits a character, so a session that is
never put inside a character keeps its tokens between whole characters.
-/

namespace StatementEnd

open Text

namespace TextHost

/-- The token starts where the host stands or before, and so does its end where one was
marked. -/
structure InOrder (host : TextHost) : Prop where
  start_le : host.bounds.start ≤ host.pos
  stop_le : forall stop, host.bounds.stop? = some stop -> stop ≤ host.pos

/-- The host stands between two characters of its text, and the token starts and ends
between two characters. -/
structure Aligned (text : String) (host : TextHost) : Prop where
  pos : CharBoundary text host.pos
  start : CharBoundary text host.bounds.start
  stop : forall stop, host.bounds.stop? = some stop -> CharBoundary text stop

variable {host : TextHost} {text : String}

/-!
## The order of a token
-/

theorem inOrder_fresh (hbounds : host.bounds = .fresh host.pos) : host.InOrder := by
  constructor
  · rw [hbounds]
    exact Nat.le_refl _
  · intro stop hstop
    rw [hbounds] at hstop
    cases hstop

/-- A reader that is not put back leaves the token in order. -/
theorem InOrder.onward (h : host.InOrder) {reader : Reader} (hle : host.pos ≤ reader.pos) :
    InOrder { host with reader := reader } where
  start_le := Nat.le_trans h.start_le hle
  stop_le stop hstop := Nat.le_trans (h.stop_le stop hstop) hle

theorem InOrder.skipTo (h : host.InOrder) {reader : Reader} (hle : host.pos ≤ reader.pos) :
    (host.skipTo reader).InOrder where
  start_le := Nat.le_refl _
  stop_le stop hstop := Nat.le_trans (h.stop_le stop hstop) hle

theorem InOrder.markEnd (h : host.InOrder) : (Host.markEnd host).InOrder where
  start_le := h.start_le
  stop_le stop hstop := by
    cases hstop
    exact Nat.le_refl _

theorem lively_inOrder (text : String) :
    Lively fun host : TextHost => host.Over text ∧ host.InOrder := by
  apply (lively text).withInvariant
  · intro host hover h
    exact h.onward (Reader.pos_le_advance hover)
  · intro host hover h
    exact h.skipTo (Reader.pos_le_advance hover)
  · intro host _ h
    exact h.markEnd
  · intro host hover h
    exact h.skipTo (Reader.lineEnd_toLineEnd hover).le

/-- The stretch of a token in order is well formed and ends where the host stands or
before. -/
theorem InOrder.span (h : host.InOrder) :
    host.span.start ≤ host.span.stop ∧ host.span.stop ≤ host.pos := by
  refine ⟨TokenBounds.span_start_le_stop _ _, ?_⟩
  show host.bounds.stop?.getD host.pos ≤ host.pos
  cases hstop : host.bounds.stop? with
  | none => exact Nat.le_refl _
  | some stop => exact h.stop_le stop hstop

/-!
## Between characters
-/

theorem aligned_fresh (hpos : CharBoundary text host.pos)
    (hbounds : host.bounds = .fresh host.pos) : host.Aligned text := by
  refine ⟨hpos, ?_, ?_⟩
  · rw [hbounds]
    exact hpos
  · intro stop hstop
    rw [hbounds] at hstop
    cases hstop

theorem Aligned.skipTo (h : host.Aligned text) {reader : Reader}
    (hreader : CharBoundary text reader.pos) : (host.skipTo reader).Aligned text :=
  ⟨hreader, hreader, h.stop⟩

theorem Aligned.markEnd (h : host.Aligned text) : (Host.markEnd host).Aligned text where
  pos := h.pos
  start := h.start
  stop stop hstop := by
    cases hstop
    exact h.pos

theorem lively_aligned (text : String) :
    Lively fun host : TextHost => host.Over text ∧ host.Aligned text := by
  apply (lively text).withInvariant
  · intro host hover h
    exact ⟨Reader.boundary_advance hover h.pos, h.start, h.stop⟩
  · intro host hover h
    exact h.skipTo (Reader.boundary_advance hover h.pos)
  · intro host _ h
    exact h.markEnd
  · intro host hover h
    exact h.skipTo (Reader.boundary_of_lineEnd (Reader.lineEnd_toLineEnd hover))

theorem Aligned.span (h : host.Aligned text) :
    CharBoundary text host.span.start ∧ CharBoundary text host.span.stop := by
  have hstop : CharBoundary text host.span.stop := by
    show CharBoundary text (host.bounds.stop?.getD host.pos)
    cases hmarked : host.bounds.stop? with
    | none => exact h.pos
    | some stop => exact h.stop stop hmarked
  refine ⟨?_, hstop⟩
  show CharBoundary text (min host.bounds.start host.span.stop)
  rcases Nat.le_total host.bounds.start host.span.stop with hle | hle
  · rw [Nat.min_eq_left hle]
    exact h.start
  · rw [Nat.min_eq_right hle]
    exact hstop

/-- The text of a token between characters is just what stands there. -/
theorem Aligned.octets_tokenText (h : host.Aligned text) (hover : host.Over text) :
    octets host.tokenText =
      ((octets text).drop host.span.start).take (host.span.stop - host.span.start) :=
  Reader.octets_slice hover h.span.1 h.span.2 (TokenBounds.span_start_le_stop _ _)

end TextHost

/-!
## Every session
-/

namespace TextSession

open TextHost

variable {source : String} {steps : List TextStep}

theorem holds_ofString {P : TextHost -> Prop} (h : P (TextHost.ofString source)) :
    (ofString source).Holds P :=
  ⟨h, h⟩

theorem inOrder_reached (source : String) (steps : List TextStep) :
    ((ofString source).reached steps).host.Over (kept source) ∧
      ((ofString source).reached steps).host.InOrder := by
  -- apart from seeks and new ranges, steps use nothing but the operations
  apply (holds_reached (lively_inOrder (kept source)) ?_ (holds_ofString ?_)).host
  · intro step _
    cases step with
    | seek offset =>
        intro host h
        exact ⟨Reader.over_seek h.1 offset, inOrder_fresh rfl⟩
    | regions positions =>
        intro host h
        exact ⟨h.1, h.2.start_le, h.2.stop_le⟩
    | _ => trivial
  · exact ⟨Reader.over_ofString source, inOrder_fresh rfl⟩

theorem aligned_reached
    (hsteps : forall offset, .seek offset ∈ steps ->
      CharBoundary (kept source) (min offset (kept source).utf8ByteSize)) :
    ((ofString source).reached steps).host.Aligned (kept source) := by
  apply (holds_reached (lively_aligned (kept source)) ?_ (holds_ofString ?_)).host.2
  · intro step hmem
    cases step with
    | seek offset =>
        intro host h
        refine ⟨Reader.over_seek h.1 offset, aligned_fresh ?_ rfl⟩
        rw [pos_seek, Reader.length_of_over h.1, length_octets]
        exact hsteps offset hmem
    | regions positions =>
        intro host h
        exact ⟨h.1, h.2.pos, h.2.start, h.2.stop⟩
    | _ => trivial
  · exact ⟨Reader.over_ofString source, aligned_fresh ⟨[], (kept source).toList, rfl, rfl⟩ rfl⟩

/-- Whatever was done with a source, the token lies before the position and the position in
what is kept of it; where no seek went inside a character, the token is made of whole
characters and its text is what stands there. -/
theorem tokens_stay_in_order (source : String) (steps : List TextStep) :
    let host := ((ofString source).reached steps).host
    host.InOrder ∧ host.pos ≤ (kept source).utf8ByteSize ∧
    (host.span.start ≤ host.span.stop ∧ host.span.stop ≤ host.pos) ∧
    ((forall offset, .seek offset ∈ steps ->
        CharBoundary (kept source) (min offset (kept source).utf8ByteSize)) ->
      host.Aligned (kept source) ∧
      (CharBoundary (kept source) host.span.start ∧
        CharBoundary (kept source) host.span.stop) ∧
      octets host.tokenText =
        ((octets (kept source)).drop host.span.start).take
          (host.span.stop - host.span.start)) := by
  intro host
  rcases inOrder_reached source steps with ⟨hover, horder⟩
  have hlength : host.pos ≤ (kept source).utf8ByteSize := by
    rw [← length_octets]
    exact hover.pos_le
  refine ⟨horder, hlength, horder.span, ?_⟩
  intro hsteps
  have haligned := aligned_reached hsteps
  exact ⟨haligned, haligned.span, haligned.octets_tokenText hover⟩

theorem tokens_stay_in_order_behind_accent :
    (forall offset, TextStep.seek offset ∈ [TextStep.skip, .seek 3, .comment] ->
      CharBoundary "\u00e9 /**/" (min offset "\u00e9 /**/".utf8ByteSize)) ∧
    ((ofString "\u00e9 /**/").reached [.skip, .seek 3, .comment]).host.span =
      { start := 3, stop := 7 } ∧
    octets ((ofString "\u00e9 /**/").reached [.skip, .seek 3, .comment]).host.tokenText =
      octets "/**/" := by
  have hsteps : forall offset, TextStep.seek offset ∈ [TextStep.skip, .seek 3, .comment] ->
      CharBoundary "\u00e9 /**/" (min offset "\u00e9 /**/".utf8ByteSize) := by
    intro offset hmem
    have hoffset : offset = 3 := by simpa using hmem
    rw [hoffset]
    exact ⟨['\u00e9', ' '], ['/', '*', '*', '/'], by decide, by decide⟩
  have hspan : ((ofString "\u00e9 /**/").reached [.skip, .seek 3, .comment]).host.span =
      { start := 3, stop := 7 } := by
    decide +kernel
  have hkept : kept "\u00e9 /**/" = "\u00e9 /**/" := kept_of_fits (by decide +kernel)
  have horder := tokens_stay_in_order "\u00e9 /**/" [.skip, .seek 3, .comment]
  rw [hkept] at horder
  have htext := (horder.2.2.2 hsteps).2.2
  rw [hspan] at htext
  exact ⟨hsteps, hspan, htext⟩

end TextSession
end StatementEnd
