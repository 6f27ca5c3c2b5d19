import StatementEnd.Proofs.FillerPrefix

/-!
# How the next line starts

Whether the line behind the newline starts a statement is read off its first bytes: a
byte that can only continue a statement, a lone sign, an inequality or the word `in`
keeps the statement open. All of them are ASCII except for the character behind `in`,
which is a whole character because a letter stands before it.
-/

namespace StatementEnd

open Text

namespace Semicolon

/-- The characters that can only continue the statement before them. -/
def continuing : List Char :=
  [',', '.', ':', ';', '*', '%', '>', '<', '=', '[', '(', '?', '^', '|', '&', '/']

def IsContinuingOctet (octet : UInt8) : Prop :=
  exists c, c ∈ continuing ∧ octet = c.toUInt8

/-- What stands behind an `i` makes it the word `in`. -/
def SpellsIn (more : List UInt8) : Prop :=
  exists tail, more = 'n'.toUInt8 :: tail ∧
    forall c chars, tail = encode (c :: chars) -> isAlphabetic c = false

/-- Bytes that start a statement, as far as their first characters tell. -/
def StartsStatement : List UInt8 -> Prop
  | [] => True
  | first :: more =>
      ¬ IsContinuingOctet first ∧
      (first = '+'.toUInt8 ∨ first = '-'.toUInt8 -> more.head? = some first) ∧
      (first = '!'.toUInt8 -> more.head? ≠ some '='.toUInt8) ∧
      (first = 'i'.toUInt8 -> ¬ SpellsIn more)

theorem plain_of_mem_continuing : forall c, c ∈ continuing -> IsPlain c :=
  forall_mem_of_all (by decide)

theorem continues_iff {c : Char} : continues c = true <-> c ∈ continuing :=
  List.contains_iff_mem

/-- The first of the characters that bytes stand for, or the null character without bytes. -/
def FirstChar (bytes : List UInt8) (c : Char) : Prop :=
  (bytes = [] ∧ c = '\x00') ∨ exists chars, bytes = encode (c :: chars)

theorem firstChar_unique {bytes : List UInt8} {c c' : Char} (h : FirstChar bytes c)
    (h' : FirstChar bytes c') : c' = c := by
  rcases h with ⟨hnil, hnul⟩ | ⟨chars, hchars⟩
  · rcases h' with ⟨_, hnul'⟩ | ⟨chars', hchars'⟩
    · rw [hnul, hnul']
    · rw [hnil] at hchars'
      cases @encode_inj [] _ hchars'
  · rcases h' with ⟨hnil, _⟩ | ⟨chars', hchars'⟩
    · rw [hnil] at hchars
      cases @encode_inj [] _ hchars
    · rw [hchars] at hchars'
      cases encode_inj hchars'
      rfl

theorem startsStatement_done {σ : Type} [Host σ] (host : σ) :
    exists after result, startsStatement host = .done after result := by
  unfold startsStatement readsIn
  dsimp only
  split
  · exact ⟨_, _, rfl⟩
  · split
    · exact ⟨_, _, rfl⟩
    · split
      · exact ⟨_, _, rfl⟩
      · split
        · split
          · split <;> exact ⟨_, _, rfl⟩
          · exact ⟨_, _, rfl⟩
        · exact ⟨_, _, rfl⟩

theorem stalled_startsStatement {σ : Type} [Host σ] (host : σ) :
    (startsStatement host).stalled = false := by
  rcases startsStatement_done host with ⟨after, result, hrun⟩
  rw [hrun]
  rfl

end Semicolon

namespace TextHost

open Semicolon

variable {host : TextHost} {text : String} {first : UInt8} {more : List UInt8}

/-!
## Reading the first characters
-/

theorem continues_lookahead_iff (h : host.Over text) :
    continues (Host.lookahead host) = true <->
      exists octet, (octets text)[host.pos]? = some octet ∧ IsContinuingOctet octet := by
  rw [continues_iff]
  exact lookahead_mem_iff h plain_of_mem_continuing

theorem lookahead_first_iff (h : host.Over text)
    (hahead : (octets text).drop host.pos = first :: more) {c : Char} (hplain : IsPlain c) :
    Host.lookahead host = c <-> first = c.toUInt8 := by
  have hfirst : (octets text)[host.pos]? = some first := getElem?_ahead hahead 0
  rw [lookahead_eq_iff h hplain, hfirst, Option.some.injEq]

theorem over_behind (h : host.Over text)
    (hahead : (octets text).drop host.pos = first :: more) :
    (host.jump (host.pos + 1)).Over text :=
  over_jump h (lt_length_of_octet (getElem?_ahead hahead 0))

theorem drop_behind (hahead : (octets text).drop host.pos = first :: more) :
    (octets text).drop (host.jump (host.pos + 1)).pos = more := by
  rw [pos_jump, ← List.drop_drop, hahead]
  rfl

theorem lookahead_second_iff (h : host.Over text)
    (hahead : (octets text).drop host.pos = first :: more) {c : Char} (hplain : IsPlain c) :
    Host.lookahead (host.jump (host.pos + 1)) = c <-> more.head? = some c.toUInt8 := by
  have hsecond : (octets text)[host.pos + 1]? = more[0]? := getElem?_ahead hahead 1
  rw [lookahead_jump_iff h (lt_length_of_octet (getElem?_ahead hahead 0)) hplain,
    hsecond, List.head?_eq_getElem?]

/-- At a boundary the character ahead is the first of those that are left. -/
theorem firstChar_lookahead (h : host.Over text) (hboundary : CharBoundary text host.pos) :
    FirstChar ((octets text).drop host.pos) (Host.lookahead host) := by
  rcases Reader.between_of_boundary h hboundary with ⟨front, back, htext, hpos, hbetween⟩
  have hdrop : (octets text).drop host.pos = encode back := by
    show (octets text).drop host.reader.pos = encode back
    rw [hpos, octets, htext, encode_append, List.drop_left]
  rw [hdrop]
  cases back with
  | nil => exact Or.inl ⟨rfl, Reader.char_of_between_nil hbetween⟩
  | cons d back =>
      have hlookahead : Host.lookahead host = d := Reader.char_of_between_cons hbetween
      rw [hlookahead]
      exact Or.inr ⟨back, rfl⟩

theorem isAlphabetic_lookahead_iff (h : host.Over text)
    (hboundary : CharBoundary text host.pos) :
    isAlphabetic (Host.lookahead host) = true <->
      exists c chars, (octets text).drop host.pos = encode (c :: chars) ∧
        isAlphabetic c = true := by
  have hfirst := firstChar_lookahead h hboundary
  constructor
  · intro halphabetic
    rcases hfirst with ⟨_, hnul⟩ | ⟨chars, hchars⟩
    · rw [hnul] at halphabetic
      exact absurd halphabetic (by decide)
    · exact ⟨_, chars, hchars, halphabetic⟩
  · intro hfound
    rcases hfound with ⟨c, chars, hchars, halphabetic⟩
    rw [← firstChar_unique hfirst (Or.inr ⟨chars, hchars⟩)]
    exact halphabetic

/-!
## The decision
-/

theorem readsIn_iff (h : host.Over text)
    (hahead : (octets text).drop host.pos = 'i'.toUInt8 :: more) :
    (readsIn host).result = true <-> SpellsIn more := by
  have hskip : Host.skip host = host.jump (host.pos + 1) :=
    skip_of_octet h (getElem?_ahead hahead 0) (by decide)
  have hsecond := lookahead_second_iff h hahead (c := 'n') (by decide)
  rw [readsIn, hskip]
  by_cases hn : more.head? = some 'n'.toUInt8
  · rcases List.head?_eq_some_iff.mp hn with ⟨tail, htail⟩
    subst htail
    have hover := over_behind h hahead
    have hbehind := drop_behind hahead
    have hthere : (octets text)[(host.jump (host.pos + 1)).pos]? = some 'n'.toUInt8 :=
      getElem?_ahead hbehind 0
    have hthird := over_behind hover hbehind
    have hboundary : CharBoundary text
        ((host.jump (host.pos + 1)).jump ((host.jump (host.pos + 1)).pos + 1)).pos := by
      rw [pos_jump]
      exact boundary_succ_of_ascii hthere (by decide)
    have halphabetic := isAlphabetic_lookahead_iff hthird hboundary
    rw [drop_behind hbehind] at halphabetic
    rw [if_pos (hsecond.mpr hn), skip_of_octet hover hthere (by decide)]
    dsimp only
    split
    · next hword =>
        apply iff_of_false Bool.noConfusion
        intro hspells
        rcases halphabetic.mp hword with ⟨c, chars, hencoded, hletter⟩
        rcases hspells with ⟨tail', htail, hnone⟩
        injection htail with _ htail
        rw [← htail] at hnone
        rw [hnone c chars hencoded] at hletter
        cases hletter
    · next hword =>
        refine iff_of_true rfl ⟨tail, rfl, ?_⟩
        intro c chars hencoded
        apply Bool.eq_false_iff.mpr
        intro hletter
        exact hword (halphabetic.mpr ⟨c, chars, hencoded, hletter⟩)
  · rw [if_neg (fun heq => hn (hsecond.mp heq))]
    apply iff_of_false Bool.noConfusion
    intro hspells
    rcases hspells with ⟨tail, htail, _⟩
    rw [htail] at hn
    exact hn rfl

theorem startsStatement_of_sign (h : host.Over text) {c : Char} (hsign : c = '+' ∨ c = '-')
    (hahead : (octets text).drop host.pos = c.toUInt8 :: more) :
    (startsStatement host).result = true <-> more.head? = some c.toUInt8 := by
  have hboth : IsPlain c ∧ continues c = false := by
    rcases hsign with heq | heq <;> subst heq <;> decide
  rcases hboth with ⟨hplain, hcontinues⟩
  have hfirst : Host.lookahead host = c :=
    (lookahead_first_iff h hahead hplain).mpr rfl
  have hskip : Host.skip host = host.jump (host.pos + 1) :=
    skip_of_octet h (getElem?_ahead hahead 0) (Reader.toUInt8_lt hplain.1)
  rw [startsStatement, hfirst, hcontinues, if_neg Bool.false_ne_true, if_pos hsign, hskip,
    ← lookahead_second_iff h hahead hplain]
  exact beq_iff_eq

theorem startsStatement_of_bang (h : host.Over text)
    (hahead : (octets text).drop host.pos = '!'.toUInt8 :: more) :
    (startsStatement host).result = true <-> more.head? ≠ some '='.toUInt8 := by
  have hfirst : Host.lookahead host = '!' :=
    (lookahead_first_iff h hahead (by decide)).mpr rfl
  have hskip : Host.skip host = host.jump (host.pos + 1) :=
    skip_of_octet h (getElem?_ahead hahead 0) (by decide)
  have hsecond := lookahead_second_iff h hahead (c := '=') (by decide)
  rw [startsStatement, hfirst, if_neg (by decide), if_neg (by decide), if_pos rfl, hskip,
    ne_eq, ← hsecond]
  exact bne_iff_ne

theorem startsStatement_of_word (h : host.Over text)
    (hahead : (octets text).drop host.pos = 'i'.toUInt8 :: more) :
    (startsStatement host).result = true <-> ¬ SpellsIn more := by
  have hfirst : Host.lookahead host = 'i' :=
    (lookahead_first_iff h hahead (by decide)).mpr rfl
  rw [startsStatement, hfirst, if_neg (by decide), if_neg (by decide), if_neg (by decide),
    if_pos rfl, ← readsIn_iff h hahead, Outcome.result_map]
  simp

theorem startsStatement_of_end (h : host.Over text)
    (hahead : (octets text).drop host.pos = []) : (startsStatement host).result = true := by
  have hend : host.pos = (octets text).length := by
    have hlen := length_ahead h hahead
    simpa using hlen
  have hlookahead : Host.lookahead host = '\x00' :=
    Reader.char_of_end h ((atEnd_iff h).mpr hend)
  rw [startsStatement, hlookahead]
  rfl

theorem startsStatement_of_continuing (h : host.Over text)
    (hahead : (octets text).drop host.pos = first :: more) (hfirst : IsContinuingOctet first) :
    (startsStatement host).result = false := by
  have hcontinues : continues (Host.lookahead host) = true :=
    (continues_lookahead_iff h).mpr ⟨first, getElem?_ahead hahead 0, hfirst⟩
  rw [startsStatement, if_pos hcontinues]
  rfl

theorem startsStatement_of_other (h : host.Over text)
    (hahead : (octets text).drop host.pos = first :: more)
    (hcontinuing : ¬ IsContinuingOctet first)
    (hsign : ¬ (first = '+'.toUInt8 ∨ first = '-'.toUInt8)) (hbang : first ≠ '!'.toUInt8)
    (hword : first ≠ 'i'.toUInt8) : (startsStatement host).result = true := by
  have hnotContinues : ¬ continues (Host.lookahead host) = true := by
    intro hcontinues
    rcases (continues_lookahead_iff h).mp hcontinues with ⟨octet, hoctet, hhere⟩
    have hfirst : (octets text)[host.pos]? = some first := getElem?_ahead hahead 0
    rw [hfirst] at hoctet
    cases hoctet
    exact hcontinuing hhere
  have hnotSign : ¬ (Host.lookahead host = '+' ∨ Host.lookahead host = '-') := by
    rw [lookahead_first_iff h hahead (by decide),
      lookahead_first_iff h hahead (by decide)]
    exact hsign
  have hnotBang : ¬ Host.lookahead host = '!' := by
    rw [lookahead_first_iff h hahead (by decide)]
    exact hbang
  have hnotWord : ¬ Host.lookahead host = 'i' := by
    rw [lookahead_first_iff h hahead (by decide)]
    exact hword
  rw [startsStatement, if_neg hnotContinues, if_neg hnotSign, if_neg hnotBang, if_neg hnotWord]
  rfl

/-- The decision about the next line is the one that its first bytes call for. -/
theorem startsStatement_iff (h : host.Over text) :
    (startsStatement host).result = true <->
      StartsStatement ((octets text).drop host.pos) := by
  cases hahead : (octets text).drop host.pos with
  | nil => exact iff_of_true (startsStatement_of_end h hahead) trivial
  | cons first more =>
      by_cases hcontinuing : IsContinuingOctet first
      · rw [startsStatement_of_continuing h hahead hcontinuing]
        apply iff_of_false Bool.noConfusion
        intro hstarts
        exact hstarts.1 hcontinuing
      · by_cases hsign : first = '+'.toUInt8 ∨ first = '-'.toUInt8
        · have hchar : exists c, (c = '+' ∨ c = '-') ∧ first = c.toUInt8 := by
            rcases hsign with heq | heq
            · exact ⟨'+', Or.inl rfl, heq⟩
            · exact ⟨'-', Or.inr rfl, heq⟩
          rcases hchar with ⟨c, hc, heq⟩
          subst heq
          have hother : c.toUInt8 ≠ '!'.toUInt8 ∧ c.toUInt8 ≠ 'i'.toUInt8 := by
            rcases hc with heq | heq <;> subst heq <;> decide
          rw [startsStatement_of_sign h hc hahead]
          constructor
          · intro hdouble
            exact ⟨hcontinuing, fun _ => hdouble, fun heq => absurd heq hother.1,
              fun heq => absurd heq hother.2⟩
          · intro hstarts
            exact hstarts.2.1 hsign
        · by_cases hbang : first = '!'.toUInt8
          · subst hbang
            rw [startsStatement_of_bang h hahead]
            constructor
            · intro hnot
              exact ⟨hcontinuing, fun heq => absurd heq hsign, fun _ => hnot,
                fun heq => absurd heq (by decide)⟩
            · intro hstarts
              exact hstarts.2.2.1 rfl
          · by_cases hword : first = 'i'.toUInt8
            · subst hword
              rw [startsStatement_of_word h hahead]
              constructor
              · intro hnot
                exact ⟨hcontinuing, fun heq => absurd heq hsign,
                  fun heq => absurd heq hbang, fun _ => hnot⟩
              · intro hstarts
                exact hstarts.2.2.2 rfl
            · apply iff_of_true
                (startsStatement_of_other h hahead hcontinuing hsign hbang hword)
              exact ⟨hcontinuing, fun heq => absurd heq hsign,
                fun heq => absurd heq hbang, fun heq => absurd heq hword⟩

end TextHost
end StatementEnd
