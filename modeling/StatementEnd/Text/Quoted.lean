import StatementEnd.Text.Hexadecimal
import StatementEnd.Text.Invisible

/-!
# Quoted characters

A character between single quotes, for a log line. The quote, the backslash and
four control characters have short escapes, a character that would not show is
written by its number in lowercase hexadecimal, and every other character stands
for itself, the double quote included.
-/

namespace StatementEnd
namespace Text

/-- The letter of the short escape of a character, where it has one. -/
def shortEscape? (c : Char) : Option Char :=
  if c = '\x00' then some '0'
  else if c = '\t' then some 't'
  else if c = '\r' then some 'r'
  else if c = '\n' then some 'n'
  else if c = '\x27' ∨ c = '\\' then some c
  else none

/-- A character as it is written between the quotes. -/
def escaped (c : Char) : String :=
  match shortEscape? c with
  | some letter => String.ofList ['\\', letter]
  | none =>
      if isInvisible c then "\\u\x7b" ++ hexDigits c.toNat ++ "\x7d"
      else String.ofList [c]

/-- A character between single quotes. -/
def quoted (c : Char) : String :=
  "\x27" ++ escaped c ++ "\x27"

/-- The filler U+3164 is written by number, the sound mark U+FF9E as it is. -/
example : quoted '\u3164' = "\x27\\u\x7b3164\x7d\x27" ∧ quoted '\uFF9E' = "\x27\uFF9E\x27" := by
  decide +kernel

/-!
## Different characters are written differently

The three ways to write a character differ in their length, and each of them tells
the character.
-/

/-- What is written for a character, as a list. -/
inductive Escapes (c : Char) : List Char -> Prop where
  | short {letter : Char} (hshort : shortEscape? c = some letter) : Escapes c ['\\', letter]
  | number : Escapes c (['\\', 'u', '\x7b'] ++ ((hexDigits c.toNat).toList ++ ['\x7d']))
  | plain : Escapes c [c]

theorem escapes_escaped (c : Char) : Escapes c (escaped c).toList := by
  unfold escaped
  cases hshort : shortEscape? c with
  | some letter =>
      rw [String.toList_ofList]
      exact Escapes.short hshort
  | none =>
      dsimp only
      split
      · rw [String.toList_append, String.toList_append, List.append_assoc]
        exact Escapes.number
      · rw [String.toList_ofList]
        exact Escapes.plain

/-- The character that a short escape with a letter stands for. -/
theorem eq_of_shortEscape? {c letter : Char} (h : shortEscape? c = some letter) :
    c = if letter = '0' then '\x00' else if letter = 't' then '\t'
      else if letter = 'r' then '\r' else if letter = 'n' then '\n' else letter := by
  unfold shortEscape? at h
  split at h
  · next hzero =>
      cases h
      exact hzero
  split at h
  · next htab =>
      cases h
      exact htab
  split at h
  · next hreturn =>
      cases h
      exact hreturn
  split at h
  · next hnewline =>
      cases h
      exact hnewline
  split at h
  · next hself =>
      cases h
      rcases hself with rfl | rfl
      · rfl
      · rfl
  · cases h

theorem escapes_inj {a b : Char} {chars chars' : List Char} (ha : Escapes a chars)
    (hb : Escapes b chars') (h : chars = chars') : a = b := by
  cases ha with
  | short hshort =>
      cases hb with
      | short hshort' =>
          cases h
          rw [eq_of_shortEscape? hshort, eq_of_shortEscape? hshort']
      | number => cases h
      | plain => cases h
  | number =>
      cases hb with
      | short _ => cases h
      | number =>
          have hdigits := List.append_cancel_right (List.append_cancel_left h)
          exact Char.toNat_inj.mp (hexDigits_inj (String.toList_inj.mp hdigits))
      | plain => cases h
  | plain =>
      cases hb with
      | short _ => cases h
      | number => cases h
      | plain =>
          cases h
          rfl

theorem quoted_inj {a b : Char} (h : quoted a = quoted b) : a = b := by
  have hchars := congrArg String.toList h
  rw [quoted, quoted, String.toList_append, String.toList_append, String.toList_append,
    String.toList_append] at hchars
  have hescaped := List.append_cancel_left (List.append_cancel_right hchars)
  exact escapes_inj (escapes_escaped a) (escapes_escaped b) hescaped

end Text
end StatementEnd
