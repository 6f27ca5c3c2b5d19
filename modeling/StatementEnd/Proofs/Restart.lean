import StatementEnd.Proofs.RegionLookup
import StatementEnd.Proofs.SessionRuns
import StatementEnd.Proofs.Walk

/-!
# Starting afresh behind another text

A seek leaves nothing of what was done before, and no routine looks back. What is asked at
an offset is therefore answered as on the text from there on alone, with every position
further on by what stands before the offset.
-/

namespace StatementEnd

open Text
open Outcome (Agrees)

namespace RegionStarts

/-- The positions that lie behind the first bytes, counted from there. -/
def behind (bytes : Nat) (positions : List Nat) : List Nat :=
  (positions.filter (bytes ≤ ·)).map (· - bytes)

theorem mem_behind {bytes pos : Nat} {positions : List Nat} :
    pos ∈ behind bytes positions <-> bytes + pos ∈ positions := by
  rw [behind, List.mem_map]
  constructor
  · intro hfound
    rcases hfound with ⟨position, hmem, hpos⟩
    rw [List.mem_filter, decide_eq_true_eq] at hmem
    rw [← hpos, Nat.add_sub_cancel' hmem.2]
    exact hmem.1
  · intro hmem
    refine ⟨bytes + pos, ?_, Nat.add_sub_cancel_left _ _⟩
    rw [List.mem_filter, decide_eq_true_eq]
    exact ⟨hmem, Nat.le_add_right _ _⟩

end RegionStarts

/-!
## Readers
-/

namespace Text
namespace Reader

/-- A reader over a text that stands behind another one, and a reader over that text alone,
before the same character. Both texts together are kept whole. -/
def Behind (front text : String) (a b : Reader) : Prop :=
  (front ++ text).utf8ByteSize < UInt32.size ∧
    exists before after, text.toList = before ++ after ∧
      a.Between (front.toList ++ before) after ∧ b.Between before after

namespace Behind

variable {front text : String} {a b : Reader}

theorem over_left (h : Behind front text a b) : a.Over (front ++ text) := by
  rcases h with ⟨hfits, before, after, htext, hleft, _⟩
  apply over_of_between hleft _ hfits
  rw [String.toList_append, htext, List.append_assoc]

theorem over_right (h : Behind front text a b) : b.Over text := by
  rcases h with ⟨hfits, before, after, htext, _, hright⟩
  apply over_of_between hright htext
  rw [String.utf8ByteSize_append] at hfits
  exact Nat.lt_of_le_of_lt (Nat.le_add_left _ _) hfits

theorem pos_eq (h : Behind front text a b) : a.pos = front.utf8ByteSize + b.pos := by
  rcases h with ⟨_, before, after, _, hleft, hright⟩
  rw [hleft.pos, hright.pos, String.ofList_append, String.ofList_toList,
    String.utf8ByteSize_append]

theorem char (h : Behind front text a b) : a.char = b.char := by
  rcases h with ⟨_, before, after, _, hleft, hright⟩
  cases after with
  | nil => rw [char_of_between_nil hleft, char_of_between_nil hright]
  | cons c after => rw [char_of_between_cons hleft, char_of_between_cons hright]

theorem atEnd (h : Behind front text a b) : a.atEnd = b.atEnd := by
  rcases h with ⟨_, before, after, _, hleft, hright⟩
  cases after with
  | nil => rw [atEnd_of_between_nil hleft, atEnd_of_between_nil hright]
  | cons c after => rw [atEnd_of_between_cons hleft, atEnd_of_between_cons hright]

theorem advance (h : Behind front text a b) : Behind front text a.advance b.advance := by
  rcases h with ⟨hfits, before, after, htext, hleft, hright⟩
  cases after with
  | nil =>
      rw [advance_of_atEnd (atEnd_of_between_nil hleft),
        advance_of_atEnd (atEnd_of_between_nil hright)]
      exact ⟨hfits, before, [], htext, hleft, hright⟩
  | cons c after =>
      refine ⟨hfits, before ++ [c], after, by simp [htext], ?_, advance_of_between_cons hright⟩
      rw [← List.append_assoc]
      exact advance_of_between_cons hleft

theorem slice (h : Behind front text a b) (start stop : Nat) :
    a.slice (front.utf8ByteSize + start) (front.utf8ByteSize + stop) = b.slice start stop := by
  have hleft : a.text.length = front.utf8ByteSize + text.utf8ByteSize := by
    rw [h.over_left.text_eq, PaddedText.length_pad, String.utf8ByteSize_append]
  have hright : b.text.length = text.utf8ByteSize := by
    rw [h.over_right.text_eq, PaddedText.length_pad]
  have hsize : front.utf8ByteSize = front.toByteArray.size := rfl
  -- the padding behind the two texts may differ, but a slice is cut back before it
  have hle : min stop text.utf8ByteSize ≤ text.utf8ByteSize := Nat.min_le_right _ _
  rw [Reader.slice, Reader.slice, hleft, hright, Nat.add_min_add_left, Nat.add_min_add_left,
    extract_of_over h.over_right hle, extract_of_over h.over_left ?_, String.toByteArray_append,
    ByteArray.extract_append_size_add' hsize]
  rw [String.utf8ByteSize_append]
  exact Nat.add_le_add_left hle _

end Behind
end Reader
end Text

/-!
## Hosts
-/

/-- A host over a text that stands behind another one, and a host over that text alone, at
the same character with the same token. The ranges are those that start in the text. -/
structure Behind (front text : String) (regions : List Nat) (a b : TextHost) : Prop where
  readers : Reader.Behind front text a.reader b.reader
  start : a.bounds.start = front.utf8ByteSize + b.bounds.start
  stop : a.bounds.stop? = b.bounds.stop?.map (front.utf8ByteSize + ·)
  all_regions : a.regions = .ofList regions
  own_regions : b.regions = .ofList (RegionStarts.behind front.utf8ByteSize regions)

namespace Behind

variable {front text : String} {regions : List Nat} {a b : TextHost}

theorem pos_eq (h : Behind front text regions a b) : a.pos = front.utf8ByteSize + b.pos :=
  h.readers.pos_eq

theorem atRegionStart (h : Behind front text regions a b) :
    Host.atRegionStart a = Host.atRegionStart b := by
  show a.regions.contains a.pos = b.regions.contains b.pos
  rw [h.all_regions, h.own_regions, h.pos_eq, Bool.eq_iff_iff,
    RegionStarts.contains_ofList_iff, RegionStarts.contains_ofList_iff,
    RegionStarts.mem_behind]

theorem advance (h : Behind front text regions a b) :
    Behind front text regions (Host.advance a) (Host.advance b) :=
  { h with readers := h.readers.advance }

theorem skip (h : Behind front text regions a b) :
    Behind front text regions (Host.skip a) (Host.skip b) :=
  { h with
    readers := h.readers.advance
    start := h.readers.advance.pos_eq }

theorem markEnd (h : Behind front text regions a b) :
    Behind front text regions (Host.markEnd a) (Host.markEnd b) :=
  { h with stop := congrArg some h.pos_eq }

theorem skipLine (h : Behind front text regions a b) :
    Agrees (Behind front text regions) (LineHost.skipLine (Host.skip a))
      (LineHost.skipLine (Host.skip b)) := by
  rw [TextHost.skipLine_eq_stepToLineEnd h.skip.readers.over_left rfl,
    TextHost.skipLine_eq_stepToLineEnd h.skip.readers.over_right rfl]
  exact Host.stepToLineEnd_agrees (TextHost.lively _) (TextHost.lively _)
    (fun h => h.readers.over_left) (fun h => h.readers.over_right) (fun h => h.readers.char)
    (fun h => h.readers.atEnd) (fun h _ => h.skip) h.skip

theorem lockstep (front text : String) (regions : List Nat) :
    Lockstep (fun host : TextHost => host.Over (front ++ text))
      (fun host : TextHost => host.Over text) (Behind front text regions) where
  left := TextHost.lively _
  right := TextHost.lively _
  on_left h := h.readers.over_left
  on_right h := h.readers.over_right
  lookahead h := h.readers.char
  atEnd h := h.readers.atEnd
  atRegionStart h := h.atRegionStart
  advance h := h.advance
  skip h := h.skip
  markEnd h := h.markEnd
  skipLine h := h.skipLine

theorem span (h : Behind front text regions a b) :
    a.span = { start := front.utf8ByteSize + b.span.start,
               stop := front.utf8ByteSize + b.span.stop } :=
  TokenBounds.span_of_translated (fun _ _ => (Nat.add_min_add_left ..).symm) h.start h.stop
    h.pos_eq

theorem tokenText (h : Behind front text regions a b) : a.tokenText = b.tokenText := by
  rw [TextHost.tokenText, h.span]
  exact h.readers.slice _ _

/-- A seek on any host over both texts, to where the second one starts. -/
theorem of_seek {host : TextHost} (hover : host.Over (front ++ text))
    (hregions : host.regions = .ofList regions) :
    Behind front text regions (host.seek front.utf8ByteSize)
      ((TextHost.ofString text).withRegions
        (RegionStarts.behind front.utf8ByteSize regions)) := by
  have hpos : (host.seek front.utf8ByteSize).pos = front.utf8ByteSize := by
    rw [TextHost.pos_seek, Reader.length_of_over hover, length_octets,
      String.utf8ByteSize_append]
    exact Nat.min_eq_left (Nat.le_add_right _ _)
  have hfits : text.utf8ByteSize < UInt32.size := by
    have hwhole := hover.fits
    rw [String.utf8ByteSize_append] at hwhole
    exact Nat.lt_of_le_of_lt (Nat.le_add_left _ _) hwhole
  have halone := Reader.between_ofString text
  rw [kept_of_fits hfits] at halone
  constructor
  · refine ⟨hover.fits, [], text.toList, rfl, ⟨?_, ?_⟩, halone⟩
    · rw [List.append_nil, String.ofList_append, String.ofList_toList, String.ofList_toList]
      exact hover.text_eq
    · rw [List.append_nil, String.ofList_toList]
      exact hpos
  · exact hpos
  · rfl
  · exact hregions
  · rfl

end Behind

/-!
## Sessions
-/

/-- Sessions of which one stands behind another text. -/
structure SessionsBehind (front text : String) (regions : List Nat) (s t : TextSession) :
    Prop where
  hosts : Behind front text regions s.host t.host

/-- The steps that run a routine. -/
def TextStep.Asks : TextStep -> Prop
  | .scan _ | .semicolon | .comment | .filler => True
  | _ => False

/-- One step had the same outcome behind the first bytes of a text as on its own, neither
was cut off, and what can be seen of the hosts is the same, but further on by those bytes. -/
structure SameBehind (bytes : Nat) (s t : Outcome TextSession TextReply) : Prop where
  result : s.result = t.result
  events : s.events = t.events
  settled : s.stalled = false ∧ t.stalled = false
  lookahead : Host.lookahead s.host.host = Host.lookahead t.host.host
  atEnd : Host.atEnd s.host.host = Host.atEnd t.host.host
  atRegionStart : Host.atRegionStart s.host.host = Host.atRegionStart t.host.host
  tokenText : s.host.host.tokenText = t.host.host.tokenText
  pos : s.host.host.pos = bytes + t.host.host.pos
  span : s.host.host.span =
    { start := bytes + t.host.host.span.start, stop := bytes + t.host.host.span.stop }

namespace TextSession

variable {front text : String} {regions : List Nat} {s t : TextSession}

/-- A session at the start of a text with the starts of its ranges. -/
def starting (text : String) (regions : List Nat) : TextSession where
  host := (TextHost.ofString text).withRegions regions
  saved := (TextHost.ofString text).withRegions regions

theorem call_behind (h : SessionsBehind front text regions s t) (routine : Routine) :
    Agrees (SessionsBehind front text regions) (s.call routine) (t.call routine) := by
  have hrun := (Behind.lockstep front text regions).run h.hosts routine
  exact hrun.andThen (Agrees.done ⟨hrun.host⟩ _)

theorem step_behind (h : SessionsBehind front text regions s t) {step : TextStep}
    (hasks : step.Asks) :
    Agrees (SessionsBehind front text regions) (s.step step) (t.step step) := by
  cases step with
  | scan request =>
      rw [TextSession.step, TextSession.step]
      cases Candidates.ofRequest request with
      | error error => exact Agrees.done h (TextReply.refused error)
      | ok candidates => exact call_behind h _
  | semicolon => exact call_behind h _
  | comment => exact call_behind h _
  | filler => exact call_behind h _
  | _ => cases hasks

/-- A run that is given no other ranges stays on its text with the ranges it has. -/
theorem kept_starting (source : String) (regions : List Nat) {steps : List TextStep}
    (hsteps : forall positions, .regions positions ∉ steps) :
    ((starting source regions).reached steps).host.Over (kept source) ∧
      ((starting source regions).reached steps).host.regions = .ofList regions := by
  apply (holds_reached (TextHost.lively_regions (kept source) (.ofList regions)) ?_
    ⟨?_, ?_⟩).host
  · intro step hmem
    cases step with
    | seek offset =>
        intro host h
        exact ⟨Reader.over_seek h.1 offset, h.2⟩
    | regions positions => exact absurd hmem (hsteps positions)
    | _ => trivial
  · exact ⟨Reader.over_ofString source, rfl⟩
  · exact ⟨Reader.over_ofString source, rfl⟩

/-- Whatever was done before, what is asked right behind a seek is answered as on the text
from there on alone. -/
theorem answers_forget_what_came_before {front text : String}
    (hfits : (front ++ text).utf8ByteSize < UInt32.size) (regions : List Nat)
    {steps : List TextStep} (hsteps : forall positions, .regions positions ∉ steps)
    {step : TextStep} (hasks : step.Asks) :
    SameBehind front.utf8ByteSize
      (((starting (front ++ text) regions).reached
        (steps ++ [.seek front.utf8ByteSize])).step step)
      ((starting text (RegionStarts.behind front.utf8ByteSize regions)).step step) := by
  rcases kept_starting (front ++ text) regions hsteps with ⟨hover, hregions⟩
  rw [kept_of_fits hfits] at hover
  have hsought : SessionsBehind front text regions
      ((starting (front ++ text) regions).reached (steps ++ [.seek front.utf8ByteSize]))
      (starting text (RegionStarts.behind front.utf8ByteSize regions)) := by
    constructor
    rw [reached, List.foldl_append]
    exact Behind.of_seek hover hregions
  have hagrees := step_behind hsought hasks
  have hhosts := hagrees.host.hosts
  exact ⟨hagrees.result, hagrees.events, hagrees.settled, hhosts.readers.char,
    hhosts.readers.atEnd, hhosts.atRegionStart, hhosts.tokenText, hhosts.pos_eq, hhosts.span⟩

theorem answers_forget_what_came_before_accent :
    ("\u00e9\n" ++ " /**/").utf8ByteSize < UInt32.size ∧
    (forall positions,
      TextStep.regions positions ∉ [TextStep.skip, .markEnd, .save, .semicolon, .restore]) ∧
    (TextStep.scan (.table [true, true])).Asks ∧
    RegionStarts.behind 3 [9, 0, 3] = [6, 0] ∧
    SameBehind 3
      (((starting "\u00e9\n /**/" [9, 0, 3]).reached
        [.skip, .markEnd, .save, .semicolon, .restore, .seek 3]).step
          (.scan (.table [true, true])))
      ((starting " /**/" [6, 0]).step (.scan (.table [true, true]))) := by
  have hsteps : forall positions,
      TextStep.regions positions ∉ [TextStep.skip, .markEnd, .save, .semicolon, .restore] := by
    simp
  have hregions : RegionStarts.behind 3 [9, 0, 3] = [6, 0] := by decide
  have hfits : ("\u00e9\n" ++ " /**/").utf8ByteSize < UInt32.size := by decide +kernel
  have hsame := @answers_forget_what_came_before _ _ hfits [9, 0, 3] _ hsteps
    (.scan (.table [true, true])) trivial
  have hfront : "\u00e9\n".utf8ByteSize = 3 := by decide
  have htext : "\u00e9\n" ++ " /**/" = "\u00e9\n /**/" := by decide
  rw [hfront, htext, hregions] at hsame
  exact ⟨hfits, hsteps, trivial, hregions, hsame⟩

end TextSession
end StatementEnd
