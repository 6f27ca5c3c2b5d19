import Mathlib.Data.Nat.Find
import StatementEnd.Proofs.CommentTokens
import StatementEnd.Proofs.FillerPrefix

/-!
# Two readings of a block comment

A block comment is read as a token by one rule and skipped as filler by another: the star
of an inner opening closes no token, but it does close filler. Both readings end at the
same place unless a slash-star-slash stands inside the token. Then filler ends behind the
first of these and what the token goes on with is read as text.
-/

namespace StatementEnd

open Text

namespace BlockComment

open TextHost (ClosesAt)

variable {bytes : List UInt8} {start stop k : Nat}

/-- The first star-slash behind an opening, whatever stands before its star. -/
structure FirstClosing (bytes : List UInt8) (start stop : Nat) : Prop where
  le : start + 2 ≤ stop
  closes : ClosesAt bytes stop
  none_before : forall i, start + 2 ≤ i -> i < stop -> ¬ ClosesAt bytes i

/-- A slash-star-slash stands in a token behind its opening. -/
def ReopensAt (token : List UInt8) (k : Nat) : Prop :=
  2 ≤ k ∧ ['/'.toUInt8, '*'.toUInt8, '/'.toUInt8] <+: token.drop k

/-- The first slash-star-slash in a token behind its opening. -/
def ReopensFirst (token : List UInt8) (k : Nat) : Prop :=
  ReopensAt token k ∧ forall i, i < k -> ¬ ReopensAt token i

/-!
## First occurrences
-/

theorem exists_firstClosing (h : exists i, start + 2 ≤ i ∧ ClosesAt bytes i) :
    exists stop, FirstClosing bytes start stop := by
  classical
  have hfound := Nat.find_spec h
  refine ⟨Nat.find h, hfound.1, hfound.2, ?_⟩
  intro i hfrom hbefore hcloses
  exact Nat.find_min h hbefore ⟨hfrom, hcloses⟩

theorem exists_reopensFirst {token : List UInt8} (h : exists k, ReopensAt token k) :
    exists k, ReopensFirst token k := by
  classical
  exact ⟨Nat.find h, Nat.find_spec h, fun _ hbefore => Nat.find_min h hbefore⟩

/-- A star-slash that closes no token has a slash before it, behind the opening. -/
theorem slash_before (hopens : OpensAt bytes start) {i : Nat} (hfrom : start + 2 ≤ i)
    (hcloses : ClosesAt bytes i) (hnot : ¬ Closes bytes start i) :
    start + 3 ≤ i ∧ bytes[i - 1]? = some '/'.toUInt8 := by
  have hslash : bytes[i - 1]? = some '/'.toUInt8 := by
    by_contra hother
    exact hnot ⟨⟨hfrom, hcloses.1, hother⟩, hcloses.2⟩
  refine ⟨?_, hslash⟩
  rcases Nat.eq_or_lt_of_le hfrom with heq | hlt
  · subst heq
    exact absurd hslash (slash_ne_of_star hopens.2)
  · exact hlt

theorem reopensAt_iff {token : List UInt8} : ReopensAt token k <->
    2 ≤ k ∧ token[k]? = some '/'.toUInt8 ∧ ClosesAt token (k + 1) := by
  rw [ReopensAt, List.prefix_iff_getElem?]
  apply and_congr_right
  intro _
  constructor
  · intro hprefix
    have hslash := hprefix 0 (by decide)
    have hstar := hprefix 1 (by decide)
    have hclosing := hprefix 2 (by decide)
    rw [List.getElem?_drop] at hslash hstar hclosing
    exact ⟨hslash, hstar, hclosing⟩
  · intro hbytes i hi
    rw [List.getElem?_drop]
    match i, hi with
    | 0, _ => exact hbytes.1
    | 1, _ => exact hbytes.2.1
    | 2, _ => exact hbytes.2.2

/-- Where a slash-star-slash stands in a token, read off the text around it. -/
theorem reopensAt_token_iff (hle : start ≤ stop) :
    ReopensAt ((bytes.drop start).take (stop + 2 - start)) k <->
      2 ≤ k ∧ start + k + 1 ≤ stop ∧ bytes[start + k]? = some '/'.toUInt8 ∧
        ClosesAt bytes (start + k + 1) := by
  rw [reopensAt_iff, ClosesAt, getElem?_token_iff, getElem?_token_iff, getElem?_token_iff]
  constructor
  · intro h
    rcases h with ⟨hk, ⟨_, hslash⟩, ⟨_, hstar⟩, hlt, hclosing⟩
    exact ⟨hk, by omega, hslash, hstar, hclosing⟩
  · intro h
    rcases h with ⟨hk, hle', hslash, hstar, hclosing⟩
    exact ⟨hk, ⟨by omega, hslash⟩, ⟨by omega, hstar⟩, by omega, hclosing⟩

/-!
## Where the readings part
-/

/-- Before the end of a token only a slash-star-slash closes filler. -/
theorem reopens_of_closesAt (hopens : OpensAt bytes start)
    (hfirst : ClosesFirst bytes start stop) {i : Nat} (hfrom : start + 2 ≤ i) (hto : i < stop)
    (hcloses : ClosesAt bytes i) :
    ReopensAt ((bytes.drop start).take (stop + 2 - start)) (i - 1 - start) := by
  rcases slash_before hopens hfrom hcloses (hfirst.2 i hto) with ⟨hafter, hslash⟩
  have hsplit : start + (i - 1 - start) = i - 1 := by omega
  have hsucc : i - 1 + 1 = i := by omega
  apply (reopensAt_token_iff (by omega)).mpr
  rw [hsplit, hsucc]
  exact ⟨by omega, by omega, hslash, hcloses⟩

theorem firstClosing_of_not_reopens (hopens : OpensAt bytes start)
    (hfirst : ClosesFirst bytes start stop)
    (hnone : forall k, ¬ ReopensAt ((bytes.drop start).take (stop + 2 - start)) k) :
    FirstClosing bytes start stop where
  le := hfirst.1.1.1
  closes := ⟨hfirst.1.1.2.1, hfirst.1.2⟩
  none_before _ hfrom hto hcloses :=
    hnone _ (reopens_of_closesAt hopens hfirst hfrom hto hcloses)

theorem firstClosing_of_reopensFirst (hopens : OpensAt bytes start)
    (hfirst : ClosesFirst bytes start stop)
    (hreopens : ReopensFirst ((bytes.drop start).take (stop + 2 - start)) k) :
    FirstClosing bytes start (start + k + 1) ∧ start + k + 1 < stop := by
  have hle := hfirst.1.1.1
  rcases (reopensAt_token_iff (by omega)).mp hreopens.1 with ⟨hk, hto, hslash, hcloses⟩
  constructor
  · refine ⟨by omega, hcloses, ?_⟩
    intro i hfrom hbefore hcloses'
    have hearlier := reopens_of_closesAt hopens hfirst hfrom (by omega) hcloses'
    exact hreopens.2 _ (by omega) hearlier
  · rcases Nat.eq_or_lt_of_le hto with heq | hlt
    · have hfree := hfirst.1.1.2.2
      rw [← heq] at hfree
      exact absurd hslash hfree
    · exact hlt

end BlockComment

namespace TextHost

open BlockComment Filler

variable {host : TextHost} {text : String} {stop : Nat}

/-!
## Filler behind an opening
-/

theorem skipBlockBody_of_firstClosing (h : host.Over text)
    (hopens : OpensAt (octets text) host.pos)
    (hfirst : FirstClosing (octets text) host.pos stop) :
    skipBlockBody (host.jump (host.pos + 2)) =
      .done ((host.jump (host.pos + 2)).jump (stop + 2)) () := by
  have hover : (host.jump (host.pos + 2)).Over text :=
    over_jump h (lt_length_of_octet hopens.2)
  apply skipBlockBody_of_closed hover ?_ hfirst.closes ?_
  · rw [pos_jump]
    exact hfirst.le
  · intro i hfrom hto
    rw [pos_jump] at hfrom
    exact hfirst.none_before i hfrom hto

theorem skip_of_firstClosing (h : host.Over text) (hopens : OpensAt (octets text) host.pos)
    (hfirst : FirstClosing (octets text) host.pos stop) :
    Filler.skip host = Filler.skip (host.jump (stop + 2)) :=
  skip_of_blockComment h hopens.1 hopens.2 (Nat.le_add_right_of_le hfirst.le)
    (skipBlockBody_of_firstClosing h hopens hfirst)

theorem skip_of_end (h : host.Over text) (hend : host.pos = (octets text).length) :
    Filler.skip host = .done host true := by
  have hnothing : ¬ StartsPiece [] := by
    intro hstarts
    rcases hstarts with ⟨piece, more, hsplit, hpiece⟩
    exact piece_ne_nil hpiece (List.append_eq_nil_iff.mp hsplit.symm).1
  rw [skip_of_not_startsPiece h (List.drop_of_length_le (Nat.le_of_eq hend.symm)) hnothing]
  rfl

theorem skip_of_unclosed (h : host.Over text) (hopens : OpensAt (octets text) host.pos)
    (hnone : forall i, host.pos + 2 ≤ i -> ¬ ClosesAt (octets text) i) :
    Filler.skip host = .done (host.jump (octets text).length) true := by
  have hlen : host.pos + 2 ≤ (octets text).length := lt_length_of_octet hopens.2
  have hover : (host.jump (host.pos + 2)).Over text := over_jump h hlen
  have hbody := skipBlockBody_of_open hover (by
    intro i hfrom
    rw [pos_jump] at hfrom
    exact hnone i hfrom)
  rw [skip_of_blockComment h hopens.1 hopens.2 hlen hbody]
  exact skip_of_end (over_jump h (Nat.le_refl _)) (pos_jump host _)

/-!
## Both readings
-/

/-- Skipping filler gives the same answer on both hosts and stops at the same offset. -/
def SkipsAlike (a b : TextHost) : Prop :=
  (Filler.skip a).result = (Filler.skip b).result ∧
    (Filler.skip a).host.pos = (Filler.skip b).host.pos

/-- How the comment token at the position of a host compares with the filler there. -/
structure ReadingsCompared (text : String) (host : TextHost) : Prop where
  /-- Without a slash-star-slash in the token, filler goes on behind the token. -/
  agree : (BlockComment.scan host).result = true ->
    (forall k, ¬ ReopensAt (octets (BlockComment.scan host).host.tokenText) k) ->
    SkipsAlike host (host.seek (BlockComment.scan host).host.pos)
  /-- Otherwise filler goes on behind the first of them, which is before the end of the
  token. -/
  part : (BlockComment.scan host).result = true ->
    (exists k, ReopensAt (octets (BlockComment.scan host).host.tokenText) k) ->
    exists k, ReopensFirst (octets (BlockComment.scan host).host.tokenText) k ∧
      (skipBlockBody (host.seek (host.pos + 2))).host.pos = host.pos + k + 3 ∧
      host.pos + k + 3 < (BlockComment.scan host).host.pos ∧
      SkipsAlike host (host.seek (host.pos + k + 3))
  /-- Where an opening starts no token, filler runs to the end of the text or goes on behind
  a star-slash, and every star-slash has a slash before it. -/
  fail : (BlockComment.scan host).result = false -> OpensAt (octets text) host.pos ->
    ((forall i, host.pos + 2 ≤ i -> ¬ ClosesAt (octets text) i) ∧
      (Filler.skip host).result = true ∧ (Filler.skip host).host.pos = (octets text).length) ∨
    ((forall i, host.pos + 2 ≤ i -> ClosesAt (octets text) i ->
        (octets text)[i - 1]? = some '/'.toUInt8) ∧
      exists stop, FirstClosing (octets text) host.pos stop ∧
        (skipBlockBody (host.seek (host.pos + 2))).host.pos = stop + 2 ∧
        SkipsAlike host (host.seek (stop + 2)))

/-- The filler at an opening that is closed, from a fresh token. -/
theorem skipsAlike_of_firstClosing (h : host.Over text) (hfresh : host.bounds = .fresh host.pos)
    (hopens : OpensAt (octets text) host.pos)
    (hfirst : FirstClosing (octets text) host.pos stop) :
    (skipBlockBody (host.seek (host.pos + 2))).host.pos = stop + 2 ∧
      SkipsAlike host (host.seek (stop + 2)) := by
  have hlen : stop + 2 ≤ (octets text).length := lt_length_of_octet hfirst.closes.2
  rw [← jump_eq_seek h hfresh hlen, ← jump_eq_seek h hfresh (lt_length_of_octet hopens.2),
    skipBlockBody_of_firstClosing h hopens hfirst]
  refine ⟨pos_jump _ _, ?_⟩
  rw [SkipsAlike, skip_of_firstClosing h hopens hfirst]
  exact ⟨rfl, rfl⟩

theorem readings_compared (h : host.Over text) (hfresh : host.bounds = .fresh host.pos) :
    ReadingsCompared text host where
  agree := by
    intro hclosed hnone
    rcases exists_closesFirst_of_scan h hclosed with ⟨hopens, stop, hfirst⟩
    rw [tokenText_of_closesFirst h hfresh hopens hfirst] at hnone
    rcases scan_of_closesFirst h hopens hfirst with ⟨depth, hscan⟩
    rw [hscan]
    exact (skipsAlike_of_firstClosing h hfresh hopens
      (firstClosing_of_not_reopens hopens hfirst hnone)).2
  part := by
    intro hclosed hsome
    rcases exists_closesFirst_of_scan h hclosed with ⟨hopens, stop, hfirst⟩
    rcases exists_reopensFirst hsome with ⟨k, hreopens⟩
    refine ⟨k, hreopens, ?_⟩
    rw [tokenText_of_closesFirst h hfresh hopens hfirst] at hreopens
    rcases firstClosing_of_reopensFirst hopens hfirst hreopens with ⟨hclosing, hlt⟩
    rcases skipsAlike_of_firstClosing h hfresh hopens hclosing with ⟨hbody, halike⟩
    rcases scan_of_closesFirst h hopens hfirst with ⟨depth, hscan⟩
    rw [hscan]
    exact ⟨hbody, Nat.add_lt_add_right hlt 2, halike⟩
  fail := by
    intro hfailed hopens
    have hnot := not_closes_of_scan h hopens hfailed
    by_cases hsome : exists i, host.pos + 2 ≤ i ∧ ClosesAt (octets text) i
    · apply Or.inr
      rcases exists_firstClosing hsome with ⟨stop, hfirst⟩
      refine ⟨?_, stop, hfirst, skipsAlike_of_firstClosing h hfresh hopens hfirst⟩
      intro i hfrom hcloses
      exact (slash_before hopens hfrom hcloses (hnot i)).2
    · apply Or.inl
      have hnone : forall i, host.pos + 2 ≤ i -> ¬ ClosesAt (octets text) i :=
        fun i hfrom hcloses => hsome ⟨i, hfrom, hcloses⟩
      rw [skip_of_unclosed h hopens hnone]
      exact ⟨hnone, rfl, pos_jump host _⟩

/-- A comment token and the filler at the same offset of what is kept of the source end at
the same place, unless an inner opening shares its star with a closing. -/
theorem comment_readings_part_at_reopening (source : String) (regions : List Nat)
    (offset : Nat) : ReadingsCompared (kept source) (opened source regions offset) :=
  readings_compared (over_opened source regions offset) rfl

/-- The token goes on to the last star-slash, the filler ends behind the first one and a space. -/
example : (BlockComment.scan (ofString "/*/*/ */x")).host.pos = 8 ∧
    (Filler.skip (ofString "/*/*/ */x")).host.pos = 6 := by
  decide +kernel

end TextHost
end StatementEnd
