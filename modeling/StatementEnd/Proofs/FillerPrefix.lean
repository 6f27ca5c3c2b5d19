import StatementEnd.Proofs.FillerGrammar
import StatementEnd.Proofs.Walk

/-!
# Skipping filler skips the filler in front

One piece of filler at the position is skipped as a whole, and what remains is
skipped from behind it. By induction over the pieces, skipping filler ends behind the
last of them, one byte further on when a lone slash stands there.
-/

namespace StatementEnd

open Text

namespace TextHost

open Filler

variable {host : TextHost} {text : String}

/-!
## Bytes that decide
-/

theorem isSpace_lookahead_iff (h : host.Over text) :
    isSpace (Host.lookahead host) = true <->
      exists octet, (octets text)[host.pos]? = some octet ∧ IsSpaceOctet octet := by
  rw [isSpace_iff]
  exact lookahead_mem_iff h plain_of_mem_spaces

theorem ascii_of_isSpaceOctet {octet : UInt8} (h : IsSpaceOctet octet) : octet < 0x80 := by
  rcases h with ⟨c, hmem, heq⟩
  rw [heq]
  exact Reader.toUInt8_lt (plain_of_mem_spaces c hmem).1

/-- A star-slash stands at an offset. -/
def ClosesAt (bytes : List UInt8) (offset : Nat) : Prop :=
  bytes[offset]? = some '*'.toUInt8 ∧ bytes[offset + 1]? = some '/'.toUInt8

theorem closesHere_iff (h : host.Over text) :
    closesHere host = true <-> ClosesAt (octets text) host.pos := by
  simp only [closesHere, Bool.and_eq_true, beq_iff_eq]
  rw [lookahead_eq_iff h (by decide)]
  apply and_congr_right
  intro hstar
  rw [skip_of_octet h hstar (by decide),
    lookahead_jump_iff h (lt_length_of_octet hstar) (by decide)]

theorem closesHere_jump_iff (h : host.Over text) {stop : Nat}
    (hlen : stop ≤ (octets text).length) :
    closesHere (host.jump stop) = true <-> ClosesAt (octets text) stop := by
  rw [closesHere_iff (over_jump h hlen), pos_jump]

/-!
## Block comments
-/

theorem inBody_of_not_closesAt (h : host.Over text) {i : Nat} (hlt : i < (octets text).length)
    (hopen : ¬ ClosesAt (octets text) i) :
    (!Host.atEnd (host.jump i) && !closesHere (host.jump i)) = true := by
  have hnot : closesHere (host.jump i) = false := by
    apply Bool.eq_false_iff.mpr
    intro hcloses
    exact hopen ((closesHere_jump_iff h (Nat.le_of_lt hlt)).mp hcloses)
  rw [atEnd_jump_of_lt h hlt, hnot]
  rfl

theorem skipBlockBody_of_closed (h : host.Over text) {stop : Nat} (hle : host.pos ≤ stop)
    (hstop : ClosesAt (octets text) stop)
    (hnone : forall i, host.pos ≤ i -> i < stop -> ¬ ClosesAt (octets text) i) :
    skipBlockBody host = .done (host.jump (stop + 2)) () := by
  have hlt := lt_length_of_octet hstop.1
  have hlen := Nat.le_of_lt hlt
  have hrun : Host.skipWhile (fun now => !Host.atEnd now && !closesHere now) host =
      .done (host.jump stop) () := by
    apply skipWhile_eq_jump h hle hlen (Or.inr (boundary_of_ascii hstop.1 (by decide)))
    · intro i hfrom hto
      exact inBody_of_not_closesAt h (Nat.lt_trans hto hlt) (hnone i hfrom hto)
    · rw [(closesHere_jump_iff h hlen).mpr hstop]
      simp
  rw [skipBlockBody, hrun, Outcome.andThen_done, atEnd_jump_of_lt h hlt,
    skip_jump_of_octet h hle hstop.1 (by decide),
    skip_jump_of_octet h (Nat.le_succ_of_le hle) hstop.2 (by decide)]
  rfl

theorem skipBlockBody_of_open (h : host.Over text)
    (hnone : forall i, host.pos ≤ i -> ¬ ClosesAt (octets text) i) :
    skipBlockBody host = .done (host.jump (octets text).length) () := by
  have hrun : Host.skipWhile (fun now => !Host.atEnd now && !closesHere now) host =
      .done (host.jump (octets text).length) () := by
    apply skipWhile_eq_jump h h.pos_le (Nat.le_refl _) (Or.inr (boundary_length text))
    · intro i hfrom hto
      exact inBody_of_not_closesAt h hto (hnone i hfrom)
    · rw [atEnd_jump_length h]
      rfl
  rw [skipBlockBody, hrun, Outcome.andThen_done, atEnd_jump_length h]
  rfl

/-!
## One piece
-/

theorem skip_of_isSpaceOctet (h : host.Over text) {octet : UInt8}
    (hoctet : (octets text)[host.pos]? = some octet) (hspace : IsSpaceOctet octet) :
    Filler.skip host = Filler.skip (host.jump (host.pos + 1)) := by
  have hnext := over_jump h (lt_length_of_octet hoctet)
  have htest := (isSpace_lookahead_iff h).mpr ⟨octet, hoctet, hspace⟩
  have hspaces : skipSpaces host = skipSpaces (host.jump (host.pos + 1)) := by
    rw [(lively text).skipSpaces_eq h, htest,
      skip_of_octet h hoctet (ascii_of_isSpaceOctet hspace)]
    rfl
  rw [(lively text).skip_eq h, (lively text).skip_eq hnext, hspaces]

theorem skipSpaces_of_not_space (h : host.Over text)
    (hnone : forall octet, (octets text)[host.pos]? = some octet -> ¬ IsSpaceOctet octet) :
    skipSpaces host = .done host () := by
  have htest : isSpace (Host.lookahead host) = false := by
    apply Bool.eq_false_iff.mpr
    intro htest
    rcases (isSpace_lookahead_iff h).mp htest with ⟨octet, hoctet, hspace⟩
    exact hnone octet hoctet hspace
  rw [(lively text).skipSpaces_eq h, htest]
  rfl

/-- At a slash, what stands behind the slash decides. -/
theorem skip_of_slash (h : host.Over text)
    (hslash : (octets text)[host.pos]? = some '/'.toUInt8) :
    Filler.skip host =
      match skipComment? (host.jump (host.pos + 1)) with
      | none => .done (host.jump (host.pos + 1)) false
      | some comment => Filler.skip comment.host := by
  have hspaces : skipSpaces host = .done host () := by
    apply skipSpaces_of_not_space h
    intro octet hoctet hspace
    rw [hslash] at hoctet
    cases hoctet
    exact not_isSpaceOctet_slash hspace
  have hlookahead : Host.lookahead host = '/' :=
    (lookahead_eq_iff h (by decide)).mpr hslash
  rw [(lively text).skip_eq h, hspaces, Outcome.host_done, if_pos hlookahead,
    skip_of_octet h hslash (by decide)]
  cases skipComment? (host.jump (host.pos + 1)) <;> rfl

theorem skip_of_lineComment (h : host.Over text) {stop : Nat}
    (hslash : (octets text)[host.pos]? = some '/'.toUInt8)
    (hsecond : (octets text)[host.pos + 1]? = some '/'.toUInt8)
    (hstop : Reader.LineEnd (octets text) (host.pos + 2) stop) :
    Filler.skip host = Filler.skip (host.jump stop) := by
  have hlookahead : Host.lookahead (host.jump (host.pos + 1)) = '/' :=
    (lookahead_jump_iff h (lt_length_of_octet hslash) (by decide)).mpr hsecond
  have hcomment : skipComment? (host.jump (host.pos + 1)) =
      some (.done (host.jump stop) ()) := by
    rw [skipComment?, if_pos hlookahead,
      skip_jump_of_octet h (Nat.le_succ _) hsecond (by decide),
      skipLine_eq_jump h (Nat.lt_add_of_pos_right (by decide)) hstop]
  rw [skip_of_slash h hslash, hcomment]
  rfl

theorem skip_of_blockComment (h : host.Over text) {stop : Nat}
    (hslash : (octets text)[host.pos]? = some '/'.toUInt8)
    (hsecond : (octets text)[host.pos + 1]? = some '*'.toUInt8)
    (hle : host.pos + 2 ≤ stop)
    (hbody : skipBlockBody (host.jump (host.pos + 2)) =
      .done ((host.jump (host.pos + 2)).jump stop) ()) :
    Filler.skip host = Filler.skip (host.jump stop) := by
  have hlookahead : Host.lookahead (host.jump (host.pos + 1)) = '*' :=
    (lookahead_jump_iff h (lt_length_of_octet hslash) (by decide)).mpr hsecond
  have hother : ¬ Host.lookahead (host.jump (host.pos + 1)) = '/' := by
    rw [hlookahead]
    decide
  have hcomment : skipComment? (host.jump (host.pos + 1)) =
      some (.done (host.jump stop) ()) := by
    rw [skipComment?, if_neg hother, if_pos hlookahead,
      skip_jump_of_octet h (Nat.le_succ _) hsecond (by decide), hbody,
      jump_jump (by omega) hle]
  rw [skip_of_slash h hslash, hcomment]
  rfl

/-!
The bytes ahead, read by their distance from the position.
-/

theorem getElem?_ahead {bytes : List UInt8} (hahead : (octets text).drop host.pos = bytes)
    (i : Nat) : (octets text)[host.pos + i]? = bytes[i]? := by
  rw [← hahead, List.getElem?_drop]

theorem length_ahead (h : host.Over text) {bytes : List UInt8}
    (hahead : (octets text).drop host.pos = bytes) :
    host.pos + bytes.length = (octets text).length := by
  have hle : host.pos ≤ (octets text).length := h.pos_le
  rw [← hahead, List.length_drop]
  omega

theorem skip_of_linePiece (h : host.Over text) {body more : List UInt8}
    (hahead : (octets text).drop host.pos =
      '/'.toUInt8 :: '/'.toUInt8 :: (body ++ more))
    (hbody : '\n'.toUInt8 ∉ body) (hmore : more = [] ∨ more.head? = some '\n'.toUInt8) :
    Filler.skip host = Filler.skip (host.jump (host.pos + (body.length + 2))) := by
  have hget := getElem?_ahead hahead
  have hlen := length_ahead h hahead
  simp only [List.length_cons, List.length_append] at hlen
  apply skip_of_lineComment h (hget 0) (hget 1)
  refine ⟨by omega, by omega, ?_, ?_⟩
  · intro i hfrom hto hnewline
    apply hbody
    have hi : i = host.pos + (i - host.pos - 2 + 2) := by omega
    rw [hi, hget, List.getElem?_cons_succ, List.getElem?_cons_succ,
      List.getElem?_append_left (by omega)] at hnewline
    exact List.mem_of_getElem? hnewline
  · rcases hmore with hnil | hnewline
    · rw [hnil, List.length_nil] at hlen
      exact Or.inl (by omega)
    · apply Or.inr
      rw [hget, List.getElem?_cons_succ, List.getElem?_cons_succ,
        List.getElem?_append_right (Nat.le_refl _), Nat.sub_self, ← List.head?_eq_getElem?]
      exact hnewline

/-- The bytes behind the two that open a comment. -/
theorem getElem?_body {first second : UInt8} {bytes : List UInt8}
    (hahead : (octets text).drop host.pos = first :: second :: bytes) (i : Nat) :
    (octets text)[host.pos + 2 + i]? = bytes[i]? := by
  rw [Nat.add_assoc, Nat.add_comm 2 i, getElem?_ahead hahead]
  rfl

/-- Without closing bytes in the body of a comment, nothing closes inside the body. -/
theorem not_closesAt_of_body {first second : UInt8} {body more : List UInt8}
    (hahead : (octets text).drop host.pos = first :: second :: (body ++ more))
    (hbody : ¬ closing <:+: body) {i : Nat} (hfrom : host.pos + 2 ≤ i)
    (hto : i + 1 < host.pos + 2 + body.length) : ¬ ClosesAt (octets text) i := by
  intro hcloses
  have hlater := getElem?_body hahead
  have hi : i = host.pos + 2 + (i - host.pos - 2) := by omega
  rw [hi] at hcloses
  rcases hcloses with ⟨hstar, hslash⟩
  rw [hlater, List.getElem?_append_left (by omega)] at hstar
  rw [Nat.add_assoc, hlater, List.getElem?_append_left (by omega)] at hslash
  exact hbody (closing_infix_iff.mpr ⟨_, hstar, hslash⟩)

theorem skip_of_blockPiece (h : host.Over text) {body more : List UInt8}
    (hahead : (octets text).drop host.pos =
      '/'.toUInt8 :: '*'.toUInt8 :: (body ++ closing ++ more))
    (hbody : ¬ closing <:+: body ++ ['*'.toUInt8]) :
    Filler.skip host = Filler.skip (host.jump (host.pos + (body.length + 4))) := by
  have hsplit : body ++ closing ++ more = body ++ ['*'.toUInt8] ++ '/'.toUInt8 :: more := by
    simp [closing]
  rw [hsplit] at hahead
  have hget := getElem?_ahead hahead
  have hlater := getElem?_body hahead
  have hover : (host.jump (host.pos + 2)).Over text :=
    over_jump h (lt_length_of_octet (hget 1))
  have hstop : ClosesAt (octets text) (host.pos + 2 + body.length) := by
    constructor
    · rw [hlater]
      simp
    · rw [Nat.add_assoc, hlater]
      simp
  have hnone : forall i, (host.jump (host.pos + 2)).pos ≤ i ->
      i < host.pos + 2 + body.length -> ¬ ClosesAt (octets text) i := by
    intro i hfrom hto
    rw [pos_jump] at hfrom
    apply not_closesAt_of_body hahead hbody hfrom
    rw [List.length_append, List.length_singleton]
    omega
  have hle : (host.jump (host.pos + 2)).pos ≤ host.pos + 2 + body.length := by simp
  have hend : host.pos + 2 + body.length + 2 = host.pos + (body.length + 4) := by omega
  have hrun := skipBlockBody_of_closed hover hle hstop hnone
  rw [hend] at hrun
  exact skip_of_blockComment h (hget 0) (hget 1) (by omega) hrun

theorem skip_of_openPiece (h : host.Over text) {body : List UInt8}
    (hahead : (octets text).drop host.pos = '/'.toUInt8 :: '*'.toUInt8 :: body)
    (hbody : ¬ closing <:+: body) :
    Filler.skip host = Filler.skip (host.jump (host.pos + (body.length + 2))) := by
  have hget := getElem?_ahead hahead
  have hlen := length_ahead h hahead
  simp only [List.length_cons] at hlen
  rw [← List.append_nil body] at hahead
  have hover : (host.jump (host.pos + 2)).Over text :=
    over_jump h (lt_length_of_octet (hget 1))
  have hnone : forall i, (host.jump (host.pos + 2)).pos ≤ i ->
      ¬ ClosesAt (octets text) i := by
    intro i hfrom hcloses
    rw [pos_jump] at hfrom
    have hlt := lt_length_of_octet hcloses.2
    exact not_closesAt_of_body hahead hbody hfrom (by omega) hcloses
  have hrun := skipBlockBody_of_open hover hnone
  rw [← hlen] at hrun
  exact skip_of_blockComment h (hget 0) (hget 1) (by omega) hrun

/-- A piece in front is skipped as a whole. -/
theorem skip_of_piece (h : host.Over text) {piece more : List UInt8}
    (hahead : (octets text).drop host.pos = piece ++ more) (hpiece : Piece piece more) :
    Filler.skip host = Filler.skip (host.jump (host.pos + piece.length)) := by
  cases hpiece with
  | space hspace => exact skip_of_isSpaceOctet h (getElem?_ahead hahead 0) hspace
  | line hbody hmore => exact skip_of_linePiece h hahead hbody hmore
  | block hbody =>
      have hrun := skip_of_blockPiece h hahead hbody
      simpa [closing] using hrun
  | openBlock hbody =>
      rw [List.append_nil] at hahead
      exact skip_of_openPiece h hahead hbody

/-!
## All pieces

The induction is on the division of the bytes ahead: each piece is one round of the
outer loop, and the rest is where the loop ends.
-/

/-- Where no piece starts, nothing is skipped but a lone slash. -/
theorem skip_of_not_startsPiece (h : host.Over text) {rest : List UInt8}
    (hahead : (octets text).drop host.pos = rest) (hrest : ¬ StartsPiece rest) :
    Filler.skip host =
      if rest.head? = some '/'.toUInt8 then .done (host.jump (host.pos + 1)) false
      else .done host true := by
  have hget := getElem?_ahead hahead
  by_cases hslash : rest.head? = some '/'.toUInt8
  · rw [if_pos hslash]
    rcases List.head?_eq_some_iff.mp hslash with ⟨more, hmore⟩
    subst hmore
    have hlen : host.pos + 1 ≤ (octets text).length := lt_length_of_octet (hget 0)
    have hnotSlash : ¬ Host.lookahead (host.jump (host.pos + 1)) = '/' := by
      intro hsecond
      rw [lookahead_jump_iff h hlen (by decide), hget] at hsecond
      rcases List.head?_eq_some_iff.mp (List.head?_eq_getElem?.trans hsecond) with ⟨_, heq⟩
      apply hrest
      rw [heq]
      exact startsPiece_line _
    have hnotStar : ¬ Host.lookahead (host.jump (host.pos + 1)) = '*' := by
      intro hsecond
      rw [lookahead_jump_iff h hlen (by decide), hget] at hsecond
      rcases List.head?_eq_some_iff.mp (List.head?_eq_getElem?.trans hsecond) with ⟨_, heq⟩
      apply hrest
      rw [heq]
      exact startsPiece_block _
    rw [skip_of_slash h (hget 0), skipComment?, if_neg hnotSlash, if_neg hnotStar]
  · rw [if_neg hslash]
    have hspaces : skipSpaces host = .done host () := by
      apply skipSpaces_of_not_space h
      intro octet hoctet hspace
      have hfirst := hget 0
      rw [Nat.add_zero, hoctet, ← List.head?_eq_getElem?] at hfirst
      rcases List.head?_eq_some_iff.mp hfirst.symm with ⟨more, hmore⟩
      apply hrest
      rw [hmore]
      exact startsPiece_space hspace more
    have hnot : ¬ Host.lookahead host = '/' := by
      intro hlookahead
      rw [lookahead_eq_iff h (by decide)] at hlookahead
      have hfirst := hget 0
      rw [Nat.add_zero, hlookahead, ← List.head?_eq_getElem?] at hfirst
      exact hslash hfirst.symm
    rw [(lively text).skip_eq h, hspaces, Outcome.host_done, if_neg hnot]

/-- Skipping filler skips all pieces in front, and the lone slash behind them. -/
theorem skip_of_divides {rest : List UInt8} {pieces : List (List UInt8)}
    (h : host.Over text) (hdivides : Divides ((octets text).drop host.pos) pieces rest) :
    Filler.skip host =
      if rest.head? = some '/'.toUInt8 then
        .done (host.jump (host.pos + pieces.flatten.length + 1)) false
      else .done (host.jump (host.pos + pieces.flatten.length)) true := by
  generalize hahead : (octets text).drop host.pos = bytes at hdivides
  induction hdivides generalizing host with
  | stop hrest =>
      rw [skip_of_not_startsPiece h hahead hrest]
      simp
  | @piece first more rest pieces hfirst _ ih =>
      have hlen := length_ahead h hahead
      rw [List.length_append] at hlen
      have hover : (host.jump (host.pos + first.length)).Over text :=
        over_jump h (by omega)
      have hmore : (octets text).drop (host.jump (host.pos + first.length)).pos = more := by
        rw [pos_jump, ← List.drop_drop, hahead, List.drop_left]
      have hjump : forall stop, host.pos + first.length ≤ stop ->
          (host.jump (host.pos + first.length)).jump stop = host.jump stop :=
        fun stop hle => jump_jump (Nat.le_add_right _ _) hle
      rw [skip_of_piece h hahead hfirst, ih hover hmore, pos_jump, List.flatten_cons,
        List.length_append, Nat.add_assoc host.pos, hjump _ (by omega), hjump _ (by omega)]

/-- The host behind the pieces in front, and what is ahead of it. -/
theorem behind_of_divides {rest : List UInt8} {pieces : List (List UInt8)}
    (h : host.Over text) (hdivides : Divides ((octets text).drop host.pos) pieces rest) :
    (host.jump (host.pos + pieces.flatten.length)).Over text ∧
      (octets text).drop (host.jump (host.pos + pieces.flatten.length)).pos = rest := by
  have hahead := append_of_divides hdivides
  have hlen := length_ahead h hahead
  rw [List.length_append] at hlen
  refine ⟨over_jump h (by omega), ?_⟩
  rw [pos_jump, ← List.drop_drop, hahead, List.drop_left]

/-- Skipping filler consumes exactly the pieces in front of what is kept of the source,
and reports a slash that opens no comment by stopping behind it. -/
theorem skip_consumes_filler_prefix (source : String) (h : host.Over (kept source)) :
    exists pieces rest,
      (octets (kept source)).drop host.pos = pieces.flatten ++ rest ∧
      Divides ((octets (kept source)).drop host.pos) pieces rest ∧
      (forall pieces' rest', Divides ((octets (kept source)).drop host.pos) pieces' rest' ->
        pieces' = pieces ∧ rest' = rest) ∧
      (Filler.skip host).stalled = false ∧
      ((Filler.skip host).result = false <-> rest.head? = some '/'.toUInt8) ∧
      (Filler.skip host).host.pos = host.pos + pieces.flatten.length +
        (if (Filler.skip host).result = false then 1 else 0) ∧
      (Filler.skip host).host.bounds.stop? = host.bounds.stop? ∧
      (Filler.skip host).host.bounds.start =
        if (Filler.skip host).host.pos = host.pos then host.bounds.start
        else (Filler.skip host).host.pos := by
  rcases exists_divides ((octets (kept source)).drop host.pos) with ⟨pieces, rest, hdivides⟩
  refine ⟨pieces, rest, append_of_divides hdivides, hdivides, ?_, ?_⟩
  · intro pieces' rest' hother
    exact divides_unique hdivides hother
  · rw [skip_of_divides h hdivides]
    by_cases hslash : rest.head? = some '/'.toUInt8
    · rw [if_pos hslash]
      refine ⟨rfl, ?_, pos_jump host _, stop?_jump host _, ?_⟩
      · exact iff_of_true rfl hslash
      · rw [Outcome.host_done, pos_jump]
        exact start_jump host _
    · rw [if_neg hslash]
      refine ⟨rfl, ?_, pos_jump host _, stop?_jump host _, ?_⟩
      · exact iff_of_false Bool.noConfusion hslash
      · rw [Outcome.host_done, pos_jump]
        exact start_jump host _

theorem skip_consumes_filler_prefix_of_block :
    ((ofString "a /**/ /b").seek 1).Over (kept "a /**/ /b") ∧
      (Filler.skip ((ofString "a /**/ /b").seek 1)).result = false ∧
        (Filler.skip ((ofString "a /**/ /b").seek 1)).host.pos = 8 := by
  have hover : ((ofString "a /**/ /b").seek 1).Over (kept "a /**/ /b") :=
    Reader.over_seek (Reader.over_ofString "a /**/ /b") 1
  have hkept : kept "a /**/ /b" = "a /**/ /b" := kept_of_fits (by decide +kernel)
  have hpos : ((ofString "a /**/ /b").seek 1).pos = 1 := by decide +kernel
  have hspace : forall more, Piece [' '.toUInt8] more :=
    fun _ => Piece.space ⟨' ', by decide, rfl⟩
  have hblock : forall more, Piece ('/'.toUInt8 :: '*'.toUInt8 :: ([] ++ closing)) more :=
    fun _ => Piece.block (by decide)
  have hrest : ¬ StartsPiece ['/'.toUInt8, 'b'.toUInt8] :=
    not_startsPiece_slash (by decide) (by decide)
  have hdivides := Divides.piece (hspace _)
    (Divides.piece (hblock _) (Divides.piece (hspace _) (Divides.stop hrest)))
  have hahead : (octets "a /**/ /b").drop 1 = [' '.toUInt8] ++
      ('/'.toUInt8 :: '*'.toUInt8 :: ([] ++ closing) ++
        ([' '.toUInt8] ++ ['/'.toUInt8, 'b'.toUInt8])) := by
    decide +kernel
  rw [← hahead] at hdivides
  rcases skip_consumes_filler_prefix "a /**/ /b" hover with
    ⟨pieces, rest, _, _, hunique, _, hresult, hstop, _⟩
  rw [hkept, hpos] at hunique
  rw [hpos] at hstop
  rcases hunique _ _ hdivides with ⟨hpieces, htail⟩
  rw [← htail] at hresult
  have hfalse := hresult.mpr rfl
  rw [← hpieces, if_pos hfalse] at hstop
  exact ⟨hover, hfalse, hstop⟩

end TextHost
end StatementEnd
