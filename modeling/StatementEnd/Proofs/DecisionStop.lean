import StatementEnd.Proofs.StatementEnds

/-!
# Where the decision stops reading

A host sees not only the decision about a semicolon but also where it stopped. On the first
line that is the first offset which no blank holds or at which a range starts. Behind a
newline it is the end of the filler, and a few bytes more where these had to be looked at: a
slash that opens no comment, a sign, or a word as far as it agrees with `instanceof`. The
end of the token stays where the decision was asked for.
-/

namespace StatementEnd

open Text

namespace Semicolon

open Filler

variable {bytes rest common xs ys : List UInt8} {regions more : List Nat}
  {start stop count : Nat} {octet : UInt8}

/-- A blank stands at an offset. -/
def BlankAt (bytes : List UInt8) (offset : Nat) : Prop :=
  exists octet, bytes[offset]? = some octet ∧ isBlankOctet octet = true

/-- The first offset from an offset on that is the end, holds no blank, or is the start of a
range. -/
structure FirstStop (bytes : List UInt8) (regions : List Nat) (start stop : Nat) : Prop where
  le : start ≤ stop
  passed : forall i, start ≤ i -> i < stop -> BlankAt bytes i ∧ i ∉ regions
  cause : stop = bytes.length ∨
    (exists octet, bytes[stop]? = some octet ∧ isBlankOctet octet = false) ∨ stop ∈ regions

/-- The longest list with which both lists start. -/
structure LongestShared (common xs ys : List UInt8) : Prop where
  left : common <+: xs
  right : common <+: ys
  longest : forall other, other <+: xs -> other <+: ys -> other.length ≤ common.length

/-- The characters that are told apart by the one behind them. -/
def signs : List Char := ['+', '-', '!']

/-- The letters of `instanceof`. -/
def wordLetters : List Char := ['i', 'n', 's', 't', 'a', 'n', 'c', 'e', 'o', 'f']

/-- How many bytes are looked past where a line starts with them behind its filler. -/
inductive LooksPast (rest : List UInt8) : Nat -> Prop where
  | sign {c : Char} : c ∈ signs -> rest.head? = some c.toUInt8 -> LooksPast rest 1
  | word {common : List UInt8} :
      rest.head? = some 'i'.toUInt8 -> LongestShared common (octets "instanceof") rest ->
      LooksPast rest common.length
  | other : (forall c, c ∈ 'i' :: signs -> rest.head? ≠ some c.toUInt8) -> LooksPast rest 0

/-- How many of the bytes behind a newline are read. -/
inductive ReadsNextLine (bytes : List UInt8) : Nat -> Prop where
  | slash {pieces : List (List UInt8)} {rest : List UInt8} :
      Divides bytes pieces rest -> rest.head? = some '/'.toUInt8 ->
      ReadsNextLine bytes (pieces.flatten.length + 1)
  | judged {pieces : List (List UInt8)} {rest : List UInt8} {count : Nat} :
      Divides bytes pieces rest -> rest.head? ≠ some '/'.toUInt8 -> LooksPast rest count ->
      ReadsNextLine bytes (pieces.flatten.length + count)

/-- The offset at which the decision stops reading. -/
inductive ReadsTo (bytes : List UInt8) (regions : List Nat) (start : Nat) : Nat -> Prop where
  | line {stop : Nat} :
      FirstStop bytes regions start stop ->
      (bytes[stop]? = some '\n'.toUInt8 -> stop ∈ regions) ->
      ReadsTo bytes regions start stop
  | nextLine {stop count : Nat} :
      FirstStop bytes regions start stop -> bytes[stop]? = some '\n'.toUInt8 ->
      stop ∉ regions -> ReadsNextLine (bytes.drop (stop + 1)) count ->
      ReadsTo bytes regions start (stop + 1 + count)

/-!
## The first stop
-/

theorem not_blankAt_of_octet (hoctet : bytes[stop]? = some octet)
    (hother : isBlankOctet octet = false) : ¬ BlankAt bytes stop := by
  intro hblank
  rcases hblank with ⟨octet', hoctet', hblank⟩
  rw [hoctet] at hoctet'
  cases hoctet'
  rw [hother] at hblank
  cases hblank

theorem not_blankAt_length : ¬ BlankAt bytes bytes.length := by
  intro hblank
  rcases hblank with ⟨octet, hoctet, _⟩
  rw [List.getElem?_eq_none (Nat.le_refl _)] at hoctet
  cases hoctet

/-- What ends the reading of the line keeps the offset from being passed. -/
theorem mem_of_cause (h : FirstStop bytes regions start stop) (hblank : BlankAt bytes stop) :
    stop ∈ regions := by
  rcases h.cause with hend | hother | hregion
  · rw [hend] at hblank
    exact absurd hblank not_blankAt_length
  · rcases hother with ⟨octet, hoctet, hother⟩
    exact absurd hblank (not_blankAt_of_octet hoctet hother)
  · exact hregion

/-- A range start that stops the reading stops it in every list that has it. -/
theorem firstStop_le {stop' : Nat} (h : FirstStop bytes regions start stop)
    (h' : FirstStop bytes more start stop') (hmore : stop ∈ regions -> stop ∈ more) :
    stop' ≤ stop := by
  apply Nat.le_of_not_lt
  intro hlt
  rcases h'.passed stop h.le hlt with ⟨hblank, hnot⟩
  exact hnot (hmore (mem_of_cause h hblank))

theorem firstStop_unique {stop' : Nat} (h : FirstStop bytes regions start stop)
    (h' : FirstStop bytes regions start stop') : stop' = stop :=
  Nat.le_antisymm (firstStop_le h h' id) (firstStop_le h' h id)

/-!
## The longest shared front
-/

theorem longestShared_cons (h : LongestShared common xs ys) :
    LongestShared (octet :: common) (octet :: xs) (octet :: ys) where
  left := (List.prefix_cons_inj octet).mpr h.left
  right := (List.prefix_cons_inj octet).mpr h.right
  longest other hleft hright := by
    cases other with
    | nil => exact Nat.zero_le _
    | cons first other =>
        rw [List.cons_prefix_cons] at hleft hright
        exact Nat.succ_le_succ (h.longest other hleft.2 hright.2)

theorem longestShared_nil (hother : ys.head? ≠ some octet) :
    LongestShared [] (octet :: xs) ys where
  left := List.nil_prefix
  right := List.nil_prefix
  longest other hleft hright := by
    cases other with
    | nil => exact Nat.le_refl _
    | cons first other =>
        rcases hright with ⟨tail, htail⟩
        rw [List.cons_prefix_cons] at hleft
        rw [← htail, ← hleft.1] at hother
        exact absurd rfl hother

theorem length_longestShared_unique {common' : List UInt8} (h : LongestShared common xs ys)
    (h' : LongestShared common' xs ys) : common'.length = common.length :=
  Nat.le_antisymm (h.longest common' h'.left h'.right) (h'.longest common h.left h.right)

/-!
## One stop only
-/

theorem plain_of_mem_signs : forall c, c ∈ signs -> IsPlain c :=
  forall_mem_of_all (by decide)

theorem plain_of_mem_wordLetters : forall c, c ∈ wordLetters -> IsPlain c :=
  forall_mem_of_all (by decide)

theorem octets_word : octets "instanceof" = wordLetters.map Char.toUInt8 := by
  decide +kernel

theorem looksPast_unique {count' : Nat} (h : LooksPast rest count) (h' : LooksPast rest count') :
    count' = count := by
  have hsigns : forall c, c ∈ signs -> c.toUInt8 ≠ 'i'.toUInt8 := forall_mem_of_all (by decide)
  cases h with
  | @sign c hmem hhead =>
      cases h' with
      | sign _ _ => rfl
      | word hword _ =>
          rw [hhead, Option.some.injEq] at hword
          exact absurd hword (hsigns c hmem)
      | other hnone => exact absurd hhead (hnone c (List.mem_cons_of_mem _ hmem))
  | word hword hshared =>
      cases h' with
      | @sign c hmem hhead =>
          rw [hhead, Option.some.injEq] at hword
          exact absurd hword (hsigns c hmem)
      | word _ hshared' => exact length_longestShared_unique hshared hshared'
      | other hnone => exact absurd hword (hnone 'i' List.mem_cons_self)
  | other hnone =>
      cases h' with
      | @sign c hmem hhead => exact absurd hhead (hnone c (List.mem_cons_of_mem _ hmem))
      | word hword _ => exact absurd hword (hnone 'i' List.mem_cons_self)
      | other _ => rfl

theorem readsNextLine_unique {count' : Nat} (h : ReadsNextLine bytes count)
    (h' : ReadsNextLine bytes count') : count' = count := by
  cases h with
  | slash hdivides hslash =>
      cases h' with
      | slash hdivides' _ =>
          rw [(divides_unique hdivides hdivides').1]
      | judged hdivides' hother _ =>
          rw [(divides_unique hdivides hdivides').2] at hother
          exact absurd hslash hother
  | judged hdivides hother hpast =>
      cases h' with
      | slash hdivides' hslash =>
          rw [(divides_unique hdivides hdivides').2] at hslash
          exact absurd hslash hother
      | judged hdivides' _ hpast' =>
          rcases divides_unique hdivides hdivides' with ⟨hpieces, hrest⟩
          rw [hrest] at hpast'
          rw [hpieces, looksPast_unique hpast hpast']

theorem readsTo_unique {stop' : Nat} (h : ReadsTo bytes regions start stop)
    (h' : ReadsTo bytes regions start stop') : stop' = stop := by
  cases h with
  | line hfirst hline =>
      cases h' with
      | line hfirst' _ => exact firstStop_unique hfirst hfirst'
      | nextLine hfirst' hnewline hregion _ =>
          rw [firstStop_unique hfirst hfirst'] at hnewline hregion
          exact absurd (hline hnewline) hregion
  | nextLine hfirst hnewline hregion hnext =>
      cases h' with
      | line hfirst' hline =>
          rw [firstStop_unique hfirst hfirst'] at hline
          exact absurd (hline hnewline) hregion
      | nextLine hfirst' _ _ hnext' =>
          rw [firstStop_unique hfirst hfirst'] at hnext' ⊢
          rw [readsNextLine_unique hnext hnext']

/-!
## What is skipped to judge a line
-/

section Judging

variable {σ : Type} [Host σ] {host : σ}

/-- A word with an `i` in front is read as far as it agrees with `instanceof`: behind `in`
only a letter can make it longer. -/
theorem host_readsIn (hword : Host.lookahead host = 'i') :
    (readsIn host).host = skipWord wordLetters host := by
  rw [wordLetters, skipWord, if_pos hword, skipWord, readsIn]
  dsimp only
  split
  · split
    · rfl
    · next hother =>
        have hmismatch : ¬ Host.lookahead (Host.skip (Host.skip host)) = 's' := by
          intro hletter
          rw [hletter] at hother
          exact hother (isAlphabetic_of_isAlpha (by decide))
        rw [skipWord, if_neg hmismatch]
        rfl
  · rfl

theorem host_startsStatement (host : σ) :
    (startsStatement host).host =
      if Host.lookahead host ∈ signs then Host.skip host
      else if Host.lookahead host = 'i' then (readsIn host).host
      else host := by
  have hcontinuing : forall c, c ∈ continuing -> c ∉ signs ∧ c ≠ 'i' :=
    forall_mem_of_all (by decide)
  rw [startsStatement]
  dsimp only
  split
  · next hcontinues =>
      rcases hcontinuing _ (continues_iff.mp hcontinues) with ⟨hsign, hword⟩
      rw [if_neg hsign, if_neg hword]
      rfl
  · split
    · next hsign =>
        have hmem : Host.lookahead host ∈ signs := by
          rcases hsign with heq | heq <;> rw [heq] <;> decide
        rw [if_pos hmem]
        rfl
    · next hsign =>
        split
        · next hbang =>
            rw [if_pos (by rw [hbang]; decide)]
            rfl
        · next hbang =>
            have hnot : Host.lookahead host ∉ signs := by
              intro hmem
              rcases List.mem_cons.mp hmem with heq | hmem
              · exact hsign (Or.inl heq)
              · rcases List.mem_cons.mp hmem with heq | hmem
                · exact hsign (Or.inr heq)
                · exact hbang (List.mem_singleton.mp hmem)
            rw [if_neg hnot]
            split
            · rfl
            · rfl

end Judging

end Semicolon

namespace TextHost

open Semicolon Filler

variable {host : TextHost} {text : String} {stop : Nat}

/-- A word is skipped as far as the text spells it. -/
theorem skipWord_eq_jump (h : host.Over text) {letters : List Char}
    (hletters : forall c, c ∈ letters -> IsPlain c) :
    exists common, LongestShared common (letters.map Char.toUInt8) ((octets text).drop host.pos) ∧
      skipWord letters host = host.jump (host.pos + common.length) := by
  induction letters generalizing host with
  | nil =>
      refine ⟨[], ⟨List.nil_prefix, List.nil_prefix, ?_⟩, (jump_pos host).symm⟩
      intro other hleft _
      exact hleft.length_le
  | cons letter letters ih =>
      rw [List.forall_mem_cons] at hletters
      have hhere := lookahead_eq_iff h hletters.1
      rw [skipWord]
      by_cases hletter : (octets text)[host.pos]? = some letter.toUInt8
      · have hlen := lt_length_of_octet hletter
        rcases ih (over_jump h hlen) hletters.2 with ⟨common, hshared, hrun⟩
        rw [pos_jump] at hshared
        rw [if_pos (hhere.mpr hletter),
          skip_of_octet h hletter (Reader.toUInt8_lt hletters.1.1), hrun, pos_jump,
          jump_jump (Nat.le_succ _) (Nat.le_add_right _ _)]
        refine ⟨letter.toUInt8 :: common, ?_, ?_⟩
        · rw [List.drop_eq_getElem_cons hlen, List.map_cons]
          rw [List.getElem?_eq_getElem hlen, Option.some.injEq] at hletter
          rw [hletter]
          exact longestShared_cons hshared
        · rw [List.length_cons, Nat.succ_add, Nat.add_succ]
      · rw [if_neg fun heq => hletter (hhere.mp heq)]
        refine ⟨[], ?_, (jump_pos host).symm⟩
        apply longestShared_nil
        rw [List.head?_drop]
        exact hletter

/-- The rest of the line is looked at as far as its first bytes call for. -/
theorem startsStatement_eq_jump (h : host.Over text) :
    exists count, LooksPast ((octets text).drop host.pos) count ∧
      (startsStatement host).host = host.jump (host.pos + count) := by
  rw [host_startsStatement]
  by_cases hsign : Host.lookahead host ∈ signs
  · have hplain := plain_of_mem_signs _ hsign
    have hoctet := (lookahead_eq_iff h hplain).mp rfl
    rw [if_pos hsign, skip_of_octet h hoctet (Reader.toUInt8_lt hplain.1)]
    refine ⟨1, LooksPast.sign hsign ?_, rfl⟩
    rw [List.head?_drop]
    exact hoctet
  · rw [if_neg hsign]
    by_cases hword : Host.lookahead host = 'i'
    · have hoctet := (lookahead_eq_iff h (by decide)).mp hword
      rw [if_pos hword, host_readsIn hword]
      rcases skipWord_eq_jump h plain_of_mem_wordLetters with ⟨common, hshared, hrun⟩
      rw [← octets_word] at hshared
      refine ⟨common.length, LooksPast.word ?_ hshared, hrun⟩
      rw [List.head?_drop]
      exact hoctet
    · rw [if_neg hword]
      refine ⟨0, LooksPast.other ?_, (jump_pos host).symm⟩
      intro c hmem hhead
      rw [List.head?_drop] at hhead
      rcases List.mem_cons.mp hmem with heq | hmem
      · rw [heq] at hhead
        exact hword ((lookahead_eq_iff h (by decide)).mpr hhead)
      · rw [← (lookahead_eq_iff h (plain_of_mem_signs c hmem)).mpr hhead] at hmem
        exact hsign hmem

theorem readNextLine_eq_jump (h : host.Over text) :
    exists count, ReadsNextLine ((octets text).drop host.pos) count ∧
      (readNextLine host).host = host.jump (host.pos + count) := by
  rcases exists_divides ((octets text).drop host.pos) with ⟨pieces, rest, hdivides⟩
  rw [readNextLine, skip_of_divides h hdivides]
  by_cases hslash : rest.head? = some '/'.toUInt8
  · rw [if_pos hslash, Outcome.andThen_done]
    exact ⟨_, ReadsNextLine.slash hdivides hslash, rfl⟩
  · rw [if_neg hslash, Outcome.andThen_done]
    rcases behind_of_divides h hdivides with ⟨hover, hrest⟩
    rcases startsStatement_eq_jump hover with ⟨count, hpast, hrun⟩
    rw [hrest] at hpast
    rw [pos_jump, jump_jump (Nat.le_add_right _ _) (Nat.le_add_right _ _), Nat.add_assoc] at hrun
    refine ⟨_, ReadsNextLine.judged hdivides hslash hpast, ?_⟩
    rw [if_pos rfl, Outcome.host_report]
    exact hrun

/-!
## The whole decision
-/

theorem firstStop_of_stopsLine (h : host.Over text) {regions : List Nat}
    (hregions : host.regions = .ofList regions) (hstop : StopsLine host (octets text) stop) :
    FirstStop (octets text) regions host.pos stop where
  le := hstop.le
  passed i hfrom hto := by
    refine ⟨blank_of_lt_blanksEnd hfrom (Nat.lt_of_lt_of_le hto hstop.le_blanksEnd), ?_⟩
    rw [← mem_regions_iff hregions, hstop.no_region i hfrom hto]
    exact Bool.false_ne_true
  cause := by
    rcases hstop.cause with hend | hregion
    · rcases Nat.eq_or_lt_of_le (le_length_of_stopsLine h hstop) with hlength | hlt
      · exact Or.inl hlength
      · have hoctet := List.getElem?_eq_getElem hlt
        generalize (octets text)[stop] = octet at hoctet
        refine Or.inr (Or.inl ⟨octet, hoctet, ?_⟩)
        rw [hend] at hoctet
        exact not_blank_at_blanksEnd hoctet
    · exact Or.inr (Or.inr ((mem_regions_iff hregions stop).mp hregion))

/-- The decision moves the host, past its mark, to where it stops reading. -/
theorem semicolonScan_eq_jump (h : host.Over text) {regions : List Nat}
    (hregions : host.regions = .ofList regions) :
    exists stop, ReadsTo (octets text) regions host.pos stop ∧
      (Semicolon.scan host).host = (Host.markEnd host).jump stop := by
  have hmarked : (Host.markEnd host).Over text := h
  have hpos : (Host.markEnd host).pos = host.pos := rfl
  have hregions' : (Host.markEnd host).regions = .ofList regions := hregions
  rw [Semicolon.scan, ← hpos]
  generalize Host.markEnd host = marked at hmarked hregions'
  rcases exists_stopsLine marked (octets text) with ⟨stop, hstop⟩
  have hfirst := firstStop_of_stopsLine hmarked hregions' hstop
  have hlen := le_length_of_stopsLine hmarked hstop
  rw [readLine_eq_jump hmarked hstop, Outcome.andThen_done]
  have hnewline := @lookahead_jump_iff _ _ hmarked _ hlen '\n' (by decide)
  cases hkind : lineStop (marked.jump stop) with
  | boundary why =>
      refine ⟨stop, ReadsTo.line hfirst ?_, rfl⟩
      intro hoctet
      rw [← mem_regions_iff hregions']
      rcases cause_of_boundary hkind with hend | hbrace | hregion
      · rw [(atEnd_jump_of_lt hmarked (lt_length_of_octet hoctet))] at hend
        cases hend
      · rw [hnewline.mpr hoctet] at hbrace
        exact absurd hbrace (by decide)
      · rw [atRegionStart_jump] at hregion
        exact hregion
  | newline =>
      rcases lineStop_newline_iff.mp hkind with ⟨_, hregion, hhere⟩
      have hoctet := hnewline.mp hhere
      have hnot : stop ∉ regions := by
        rw [← mem_regions_iff hregions', ← atRegionStart_jump, hregion]
        exact Bool.false_ne_true
      have hnext := over_jump hmarked (lt_length_of_octet hoctet)
      rcases readNextLine_eq_jump hnext with ⟨count, hcount, hrun⟩
      rw [pos_jump] at hcount
      rw [pos_jump, jump_jump (Nat.le_succ_of_le hstop.le) (Nat.le_add_right _ _)] at hrun
      refine ⟨stop + 1 + count, ReadsTo.nextLine hfirst hoctet hnot hcount, ?_⟩
      dsimp only
      rw [skip_jump_of_octet hmarked hstop.le hoctet (by decide)]
      exact hrun
  | content =>
      refine ⟨stop, ReadsTo.line hfirst ?_, rfl⟩
      intro hoctet
      exact absurd (hnewline.mpr hoctet) (lineStop_content_iff.mp hkind).2.2.2

/-- The decision about a semicolon stops reading where its rule says, over what is kept of
the source, and nowhere else. The end of the token stays where the decision was asked
for. -/
theorem decision_stops_where_read (source : String) (regions : List Nat) (offset : Nat) :
    (Semicolon.scan (opened source regions offset)).stalled = false ∧
    (forall stop, (Semicolon.scan (opened source regions offset)).host.pos = stop <->
      ReadsTo (octets (kept source)) regions (min offset (octets (kept source)).length)
        stop) ∧
    (Semicolon.scan (opened source regions offset)).host.bounds.stop? =
      some (min offset (octets (kept source)).length) ∧
    (Semicolon.scan (opened source regions offset)).host.span.stop =
      min offset (octets (kept source)).length := by
  have hover := over_opened source regions offset
  rcases semicolonScan_eq_jump hover rfl with ⟨stop, hreads, hrun⟩
  rw [← pos_opened source regions offset]
  have hstop : (Semicolon.scan (opened source regions offset)).host.bounds.stop? =
      some (opened source regions offset).pos := by
    rw [hrun, stop?_jump]
    rfl
  refine ⟨(semicolonScan_iff hover rfl).1, ?_, hstop, ?_⟩
  · intro stop'
    rw [hrun, pos_jump]
    constructor
    · intro heq
      rw [← heq]
      exact hreads
    · intro hreads'
      exact readsTo_unique hreads' hreads
  · rw [span, TokenBounds.span, hstop]
    rfl

/-- The word is read up to its first letter that is not one of `instanceof`. -/
example : (Semicolon.scan (opened "a \n/**/ insx" [] 1)).host.pos = 11 := by decide +kernel

end TextHost
end StatementEnd
