import StatementEnd.Proofs.CommentDepth
import StatementEnd.Proofs.DecisionStop
import StatementEnd.Proofs.ScanContract

/-!
# What the events of a scan tell

A scan tells at most one thing about what it found, and then what it produced. What it finds
is laid down by the text and the range starts alone: they call for one event and one result,
and the scan has exactly these. An event tells the next character itself; how a character is
written is left open, and no result depends on it.
-/

namespace StatementEnd

open Text

/-- An event with what it shows: its message and its further fields. -/
structure Shown where
  event : Event
  message : String
  fields : List (String × FieldValue)

def Event.shown (write : Char -> String) (event : Event) : Shown where
  event := event
  message := event.message
  fields := event.fieldsBy write

/-!
## What a text calls for
-/

namespace Semicolon

open Filler

variable {write : Char -> String} {bytes : List UInt8} {regions : List Nat} {start : Nat}

/-- What stands at an offset, for the reading of the first line. Of several causes the one
that is asked for first counts. -/
def lineStopAt (bytes : List UInt8) (regions : List Nat) (stop : Nat) : LineStop :=
  if stop = bytes.length then .boundary .endOfInput
  else if bytes[stop]? = some '}'.toUInt8 then .boundary .closingBrace
  else if stop ∈ regions then .boundary .includedRange
  else if bytes[stop]? = some '\n'.toUInt8 then .newline
  else .content

/-- What is told about the line behind a newline, and whether it starts a statement. -/
inductive TellsNextLine (write : Char -> String) (bytes : List UInt8) :
    Shown -> Bool -> Prop where
  | slash {pieces : List (List UInt8)} {rest : List UInt8} :
      Divides bytes pieces rest -> rest.head? = some '/'.toUInt8 ->
      TellsNextLine write bytes ⟨.slashOnNextLine, "next line starts with a slash", []⟩ false
  | classified {pieces : List (List UInt8)} {rest : List UInt8} {next : Char}
      {inserted : Bool} :
      Divides bytes pieces rest -> rest.head? ≠ some '/'.toUInt8 -> FirstChar rest next ->
      (inserted = true <-> StartsStatement rest) ->
      TellsNextLine write bytes
        ⟨.classified next inserted, "classified next line",
          [("next", .text (write next)), ("insert", .flag inserted)]⟩ inserted

/-- What is told where the reading of the first line stops, with the bytes behind. -/
inductive TellsStop (write : Char -> String) (behind : List UInt8) :
    LineStop -> Option Shown -> Bool -> Prop where
  | endOfInput :
      TellsStop write behind (.boundary .endOfInput)
        (some ⟨.boundary .endOfInput, "terminator before end of input", []⟩) true
  | closingBrace :
      TellsStop write behind (.boundary .closingBrace)
        (some ⟨.boundary .closingBrace, "terminator before closing brace", []⟩) true
  | includedRange :
      TellsStop write behind (.boundary .includedRange)
        (some ⟨.boundary .includedRange, "terminator before included range", []⟩) true
  | newline {told : Shown} {inserted : Bool} :
      TellsNextLine write behind told inserted ->
      TellsStop write behind .newline (some told) inserted
  | content : TellsStop write behind .content none false

/-- What is told about the end of a statement at an offset, and whether there is one. -/
def TellsDecision (write : Char -> String) (bytes : List UInt8) (regions : List Nat)
    (start : Nat) (told? : Option Shown) (inserted : Bool) : Prop :=
  exists stop, FirstStop bytes regions start stop ∧
    TellsStop write (bytes.drop (stop + 1)) (lineStopAt bytes regions stop) told? inserted

variable {told told' : Shown} {told? told?' : Option Shown} {inserted inserted' : Bool}
  {behind : List UInt8}

theorem tellsStop_of_boundary (why : Boundary) :
    TellsStop write behind (.boundary why) (some ((Event.boundary why).shown write)) true := by
  cases why with
  | endOfInput => exact TellsStop.endOfInput
  | closingBrace => exact TellsStop.closingBrace
  | includedRange => exact TellsStop.includedRange

theorem tellsNextLine_unique (h : TellsNextLine write bytes told inserted)
    (h' : TellsNextLine write bytes told' inserted') : told' = told ∧ inserted' = inserted := by
  cases h with
  | slash hdivides hslash =>
      cases h' with
      | slash _ _ => exact ⟨rfl, rfl⟩
      | classified hdivides' hother _ _ =>
          rw [(divides_unique hdivides hdivides').2] at hother
          exact absurd hslash hother
  | classified hdivides hother hnext hstarts =>
      cases h' with
      | slash hdivides' hslash =>
          rw [(divides_unique hdivides hdivides').2] at hslash
          exact absurd hslash hother
      | classified hdivides' _ hnext' hstarts' =>
          rw [(divides_unique hdivides hdivides').2] at hnext' hstarts'
          have hsame := Bool.eq_iff_iff.mpr (hstarts'.trans hstarts.symm)
          rw [firstChar_unique hnext hnext', hsame]
          exact ⟨rfl, rfl⟩

theorem tellsStop_unique {stop : LineStop} (h : TellsStop write behind stop told? inserted)
    (h' : TellsStop write behind stop told?' inserted') :
    told?' = told? ∧ inserted' = inserted := by
  cases h with
  | endOfInput =>
      cases h'
      exact ⟨rfl, rfl⟩
  | closingBrace =>
      cases h'
      exact ⟨rfl, rfl⟩
  | includedRange =>
      cases h'
      exact ⟨rfl, rfl⟩
  | newline hnext =>
      cases h' with
      | newline hnext' =>
          rcases tellsNextLine_unique hnext hnext' with ⟨htold, hinserted⟩
          exact ⟨congrArg some htold, hinserted⟩
  | content =>
      cases h'
      exact ⟨rfl, rfl⟩

theorem tellsDecision_unique (h : TellsDecision write bytes regions start told? inserted)
    (h' : TellsDecision write bytes regions start told?' inserted') :
    told?' = told? ∧ inserted' = inserted := by
  rcases h with ⟨stop, hfirst, htells⟩
  rcases h' with ⟨stop', hfirst', htells'⟩
  rw [firstStop_unique hfirst hfirst'] at htells'
  exact tellsStop_unique htells htells'

end Semicolon

namespace BlockComment

open Filler

variable {bytes : List UInt8} {start : Nat} {told? told?' : Option Shown} {closed closed' : Bool}

/-- What is told about a comment at an offset, and whether there is one that is closed. -/
inductive TellsComment (bytes : List UInt8) (start : Nat) : Option Shown -> Bool -> Prop where
  | closed {stop : Nat} {depth : UInt32} :
      OpensAt bytes start -> ClosesFirst bytes start stop ->
      depth = .ofNat (openings bytes (start + 2) (stop + 1)) ->
      TellsComment bytes start
        (some ⟨.commentClosed depth, "block comment closed", [("depth", .number depth.toNat)]⟩)
        true
  | unterminated {depth : UInt32} :
      OpensAt bytes start -> (forall i, ¬ Closes bytes start i) ->
      depth = .ofNat (1 + openings bytes (start + 2) bytes.length) ->
      TellsComment bytes start
        (some ⟨.commentUnterminated depth, "unterminated block comment",
          [("depth", .number depth.toNat)]⟩)
        false
  | nothing : ¬ OpensAt bytes start -> TellsComment bytes start none false

/-- What is told about a comment behind the white space at an offset. -/
def TellsBehindSpaces (bytes : List UInt8) (start : Nat) (told? : Option Shown)
    (closed : Bool) : Prop :=
  exists stop, SpacesEnd bytes start stop ∧ TellsComment bytes stop told? closed

theorem tellsComment_unique (h : TellsComment bytes start told? closed)
    (h' : TellsComment bytes start told?' closed') : told?' = told? ∧ closed' = closed := by
  cases h with
  | @closed stop _ hopens hfirst hdepth =>
      cases h' with
      | closed _ hfirst' hdepth' =>
          rw [hdepth, hdepth', closesFirst_unique hfirst hfirst']
          exact ⟨rfl, rfl⟩
      | unterminated _ hnone _ => exact absurd hfirst.1 (hnone stop)
      | nothing hnot => exact absurd hopens hnot
  | unterminated hopens hnone hdepth =>
      cases h' with
      | @closed stop _ _ hfirst _ => exact absurd hfirst.1 (hnone stop)
      | unterminated _ _ hdepth' =>
          rw [hdepth, hdepth']
          exact ⟨rfl, rfl⟩
      | nothing hnot => exact absurd hopens hnot
  | nothing hnot =>
      cases h' with
      | closed hopens _ _ => exact absurd hopens hnot
      | unterminated hopens _ _ => exact absurd hopens hnot
      | nothing _ => exact ⟨rfl, rfl⟩

theorem tellsBehindSpaces_unique (h : TellsBehindSpaces bytes start told? closed)
    (h' : TellsBehindSpaces bytes start told?' closed') : told?' = told? ∧ closed' = closed := by
  rcases h with ⟨stop, hstop, htells⟩
  rcases h' with ⟨stop', hstop', htells'⟩
  rw [spacesEnd_unique hstop hstop'] at htells'
  exact tellsComment_unique htells htells'

end BlockComment

namespace TextHost

open Semicolon BlockComment Filler

variable {write : Char -> String} {host : TextHost} {text : String}

/-!
## What the decision tells
-/

theorem lineStop_eq_lineStopAt (h : host.Over text) {regions : List Nat}
    (hregions : host.regions = .ofList regions) :
    lineStop host = lineStopAt (octets text) regions host.pos := by
  rw [lineStop, lineStopAt]
  apply if_congr (atEnd_iff h) rfl
  apply if_congr (lookahead_eq_iff h (by decide)) rfl
  apply if_congr (mem_regions_iff hregions host.pos) rfl
  exact if_congr (lookahead_eq_iff h (by decide)) rfl rfl

/-- No operation puts a host inside a character. -/
theorem lively_between (text : String) :
    Lively fun host : TextHost => host.Over text ∧ CharBoundary text host.pos :=
  (lively text).withInvariant (fun hover h => Reader.boundary_advance hover h)
    (fun hover h => Reader.boundary_advance hover h) (fun _ h => h)
    (fun hover _ => Reader.boundary_of_lineEnd (Reader.lineEnd_toLineEnd hover))

theorem readNextLine_tells (h : host.Over text) (hboundary : CharBoundary text host.pos) :
    exists told, (readNextLine host).events.map (Event.shown write) = [told] ∧
      TellsNextLine write ((octets text).drop host.pos) told (readNextLine host).result := by
  rcases exists_divides ((octets text).drop host.pos) with ⟨pieces, rest, hdivides⟩
  have hskip := skip_of_divides h hdivides
  have hbetween := ((lively_between text).kept_skip ⟨h, hboundary⟩).2
  rw [readNextLine, hskip]
  by_cases hslash : rest.head? = some '/'.toUInt8
  · rw [if_pos hslash, Outcome.andThen_done]
    exact ⟨_, rfl, TellsNextLine.slash hdivides hslash⟩
  · rw [hskip, if_neg hslash, Outcome.host_done] at hbetween
    rw [if_neg hslash, Outcome.andThen_done]
    rcases behind_of_divides h hdivides with ⟨hover, hrest⟩
    have hnext := firstChar_lookahead hover hbetween
    have hstarts := startsStatement_iff hover
    rcases startsStatement_done (host.jump (host.pos + pieces.flatten.length)) with
      ⟨after, inserted, hrun⟩
    rw [hrest] at hnext hstarts
    rw [hrun] at hstarts ⊢
    exact ⟨_, rfl, TellsNextLine.classified hdivides hslash hnext hstarts⟩

theorem semicolonScan_tells (h : host.Over text) {regions : List Nat}
    (hregions : host.regions = .ofList regions) :
    exists told?, (Semicolon.scan host).events.map (Event.shown write) = told?.toList ∧
      TellsDecision write (octets text) regions host.pos told? (Semicolon.scan host).result := by
  have hmarked : (Host.markEnd host).Over text := h
  have hpos : (Host.markEnd host).pos = host.pos := rfl
  have hregions' : (Host.markEnd host).regions = .ofList regions := hregions
  rw [Semicolon.scan, ← hpos]
  generalize Host.markEnd host = marked at hmarked hregions'
  rcases exists_stopsLine marked (octets text) with ⟨stop, hstop⟩
  have hfirst := firstStop_of_stopsLine hmarked hregions' hstop
  have hlen := le_length_of_stopsLine hmarked hstop
  have hkind := lineStop_eq_lineStopAt (over_jump hmarked hlen)
    ((regions_jump marked stop).trans hregions')
  rw [pos_jump] at hkind
  rw [readLine_eq_jump hmarked hstop, Outcome.andThen_done, hkind]
  cases hstopAt : lineStopAt (octets text) regions stop with
  | boundary why =>
      refine ⟨some ((Event.boundary why).shown write), rfl, stop, hfirst, ?_⟩
      rw [hstopAt]
      exact tellsStop_of_boundary why
  | newline =>
      have hoctet : (octets text)[stop]? = some '\n'.toUInt8 := by
        rw [hstopAt] at hkind
        exact (lookahead_jump_iff hmarked hlen (by decide)).mp (lineStop_newline_iff.mp hkind).2.2
      have hnext := over_jump hmarked (lt_length_of_octet hoctet)
      -- the newline puts the host between two characters wherever the scan started
      have hboundary : CharBoundary text (marked.jump (stop + 1)).pos := by
        rw [pos_jump]
        exact boundary_succ_of_ascii hoctet (by decide)
      rcases readNextLine_tells hnext hboundary with ⟨told, hevents, htells⟩
      rw [pos_jump] at htells
      dsimp only
      rw [skip_jump_of_octet hmarked hstop.le hoctet (by decide)]
      refine ⟨some told, hevents, stop, hfirst, ?_⟩
      rw [hstopAt]
      exact TellsStop.newline htells
  | content =>
      refine ⟨none, rfl, stop, hfirst, ?_⟩
      rw [hstopAt]
      exact TellsStop.content

/-!
## What a comment tells
-/

theorem commentScan_tells (h : host.Over text) :
    exists told?, (BlockComment.scan host).events.map (Event.shown write) = told?.toList ∧
      TellsComment (octets text) host.pos told? (BlockComment.scan host).result := by
  by_cases hopens : OpensAt (octets text) host.pos
  · have hreports := scan_reports h hopens
    generalize (BlockComment.scan host).events = events at hreports
    cases hreports with
    | closed hfirst =>
        rcases scan_of_closesFirst h hopens hfirst with ⟨depth, hscan⟩
        rw [hscan]
        exact ⟨_, rfl, TellsComment.closed hopens hfirst rfl⟩
    | unterminated hnone =>
        have hfailed : (BlockComment.scan host).result = false := by
          apply Bool.eq_false_iff.mpr
          intro hclosed
          rcases exists_closesFirst_of_scan h hclosed with ⟨_, stop, hfirst⟩
          exact hnone stop hfirst.1
        rw [hfailed]
        exact ⟨_, rfl, TellsComment.unterminated hopens hnone rfl⟩
  · rcases scan_of_not_opensAt h hopens with ⟨after, hscan⟩
    rw [hscan]
    exact ⟨none, rfl, TellsComment.nothing hopens⟩

end TextHost

/-!
## The whole trace
-/

/-- What is shown of the result of a scan for one kind. -/
def closingShown (candidates : Candidates) (kind : TokenKind) (name : String) : Bool -> Shown
  | true => ⟨.produced kind, "external token", [("token", .text name)]⟩
  | false =>
      ⟨.nothingProduced candidates, "no external token",
        [("valid", .text candidates.describe)]⟩

/-- A scan told at most one thing, and then whether it produced the only kind that it
could produce. -/
structure Logs {σ : Type} (write : Char -> String) (candidates : Candidates) (kind : TokenKind)
    (name : String) (outcome : Outcome σ (Option TokenKind)) (told? : Option Shown)
    (produced : Bool) : Prop where
  result : outcome.result = if produced then some kind else none
  events : outcome.events.map (Event.shown write) =
    told?.toList ++ [closingShown candidates kind name produced]

/-- Something is logged, and whatever is logged is what is called for. -/
def Explains (logs tells : Option Shown -> Bool -> Prop) : Prop :=
  (exists told? produced, logs told? produced) ∧
    forall told? produced, logs told? produced <-> tells told? produced

section Logging

variable {σ : Type} {write : Char -> String} {candidates : Candidates} {kind : TokenKind}
  {name : String} {outcome : Outcome σ (Option TokenKind)} {told? told?' : Option Shown}
  {produced produced' : Bool}

theorem logs_unique (h : Logs write candidates kind name outcome told? produced)
    (h' : Logs write candidates kind name outcome told?' produced') :
    told?' = told? ∧ produced' = produced := by
  have hproduced : produced' = produced := by
    have hresult := h'.result.symm.trans h.result
    cases produced with
    | true =>
        cases produced' with
        | true => rfl
        | false => cases hresult
    | false =>
        cases produced' with
        | true => cases hresult
        | false => rfl
  have hevents := h'.events.symm.trans h.events
  rw [hproduced] at hevents
  have htold := congrArg List.head? (List.append_cancel_right hevents)
  rw [Option.head?_toList, Option.head?_toList] at htold
  exact ⟨htold, hproduced⟩

theorem logs_of_tried {tried : Outcome σ Bool} (hname : kind.name = name)
    (htold : tried.events.map (Event.shown write) = told?.toList) :
    Logs write candidates kind name
      ((tried.map fun found => if found then some kind else none).report
        (closingEvent candidates (if tried.result then some kind else none)))
      told? tried.result where
  result := rfl
  events := by
    have hclosing :
        (closingEvent candidates (if tried.result then some kind else none)).shown write =
          closingShown candidates kind name tried.result := by
      rw [← hname]
      cases tried.result <;> rfl
    show (tried.events ++ [_]).map (Event.shown write) = _
    rw [List.map_append, htold, List.map_singleton, hclosing]

theorem explains_of {logs tells : Option Shown -> Bool -> Prop} (hlogs : logs told? produced)
    (htells : tells told? produced)
    (hlogs_unique : forall {told?' produced'}, logs told?' produced' ->
      told?' = told? ∧ produced' = produced)
    (htells_unique : forall {told?' produced'}, tells told?' produced' ->
      told?' = told? ∧ produced' = produced) : Explains logs tells := by
  refine ⟨⟨told?, produced, hlogs⟩, ?_⟩
  intro told?' produced'
  constructor
  · intro h
    rcases hlogs_unique h with ⟨htold, hproduced⟩
    rw [htold, hproduced]
    exact htells
  · intro h
    rcases htells_unique h with ⟨htold, hproduced⟩
    rw [htold, hproduced]
    exact hlogs

end Logging

namespace TextHost

open Semicolon BlockComment Filler

variable {write : Char -> String} {host : TextHost} {text : String} {candidates : Candidates}

/-- The events of a scan over a text, for each choice of candidates. -/
structure TraceExplained (write : Char -> String) (text : String) (regions : List Nat)
    (start : Nat) (candidates : Candidates) (outcome : Outcome TextHost (Option TokenKind)) :
    Prop where
  settled : outcome.stalled = false
  semicolon : candidates.allows .semicolon = true ->
    Explains (Logs write candidates .semicolon "automatic_semicolon" outcome)
      (TellsDecision write (octets text) regions start)
  comment : candidates.allows .semicolon = false -> candidates.allows .blockComment = true ->
    Explains (Logs write candidates .blockComment "multiline_comment" outcome)
      (TellsBehindSpaces (octets text) start)
  neither : candidates.allows .semicolon = false -> candidates.allows .blockComment = false ->
    Logs write candidates .blockComment "multiline_comment" outcome none false

theorem semicolon_explained (h : host.Over text) {regions : List Nat}
    (hregions : host.regions = .ofList regions) (hsemicolon : candidates.allows .semicolon = true) :
    Explains
      (Logs write candidates .semicolon "automatic_semicolon"
        ((attempt candidates host).report
          (closingEvent candidates (attempt candidates host).result)))
      (TellsDecision write (octets text) regions host.pos) := by
  rcases semicolonScan_tells h hregions with ⟨told?, hevents, htells⟩
  rw [attempt_of_semicolon host hsemicolon]
  have hlogs : Logs write candidates .semicolon "automatic_semicolon" _ told? _ :=
    logs_of_tried rfl hevents
  exact explains_of hlogs htells (logs_unique hlogs) (tellsDecision_unique htells)

theorem comment_explained (h : host.Over text) (hsemicolon : candidates.allows .semicolon = false)
    (hcomment : candidates.allows .blockComment = true) :
    Explains
      (Logs write candidates .blockComment "multiline_comment"
        ((attempt candidates host).report
          (closingEvent candidates (attempt candidates host).result)))
      (TellsBehindSpaces (octets text) host.pos) := by
  rcases exists_spacesEnd h.pos_le with ⟨stop, hstop⟩
  have hover := over_jump h (le_length_of_spacesEnd hstop h.pos_le)
  rcases commentScan_tells hover with ⟨told?, hevents, htells⟩
  rw [pos_jump] at htells
  rw [attempt_of_comment host hsemicolon hcomment, skipSpaces_eq_jump h hstop,
    Outcome.andThen_done]
  have hlogs : Logs write candidates .blockComment "multiline_comment" _ told? _ :=
    logs_of_tried rfl hevents
  have htold : TellsBehindSpaces (octets text) host.pos told?
      (BlockComment.scan (host.jump stop)).result := ⟨stop, hstop, htells⟩
  exact explains_of hlogs htold (logs_unique hlogs) (tellsBehindSpaces_unique htold)

theorem neither_explained (h : host.Over text) (hsemicolon : candidates.allows .semicolon = false)
    (hcomment : candidates.allows .blockComment = false) :
    Logs write candidates .blockComment "multiline_comment"
      ((attempt candidates host).report
        (closingEvent candidates (attempt candidates host).result)) none false := by
  rcases exists_spacesEnd h.pos_le with ⟨stop, hstop⟩
  rw [attempt_of_neither host hsemicolon hcomment, skipSpaces_eq_jump h hstop,
    Outcome.andThen_done]
  exact ⟨rfl, rfl⟩

/-- The events of a scan explain its result: they are those that the range starts and what
is kept of the source call for, and no others. -/
theorem trace_explains_result (write : Char -> String) (scanner : Scanner)
    (candidates : Candidates) (source : String) (regions : List Nat) (offset : Nat) :
    TraceExplained write (kept source) regions (min offset (octets (kept source)).length)
      candidates (scanner.scan candidates (opened source regions offset)) := by
  have hover := over_opened source regions offset
  rw [← pos_opened source regions offset, Scanner.scan_eq_attempt]
  constructor
  · exact ((lively _).lockstep.attempt ⟨hover, rfl⟩ candidates).settled.1
  · exact semicolon_explained hover rfl
  · exact comment_explained hover
  · exact neither_explained hover

/-- Of the three causes at the end of the text only the first is told. -/
example : (Scanner.fresh.scan (.ofBits 3) (opened "a" [1] 1)).events.map Event.message =
    ["terminator before end of input", "external token"] := by
  decide +kernel

/-- The next character is told as it is, and shown between quotes. -/
example : (Scanner.fresh.scan (.ofBits 1) (opened "a\n/**/+b" [] 1)).events =
      [.classified '+' false, .nothingProduced (.ofBits 1)] ∧
    (Event.classified '+' false).fields =
      [("next", .text "\x27+\x27"), ("insert", .flag false)] := by
  decide +kernel

end TextHost
end StatementEnd
