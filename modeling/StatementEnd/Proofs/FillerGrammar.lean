import Mathlib.Data.List.Infix
import StatementEnd.Filler
import StatementEnd.Proofs.Octets

/-!
# The grammar of filler

Filler is a run of pieces: single white space bytes, line comments and block
comments. Where a comment ends depends on what follows it, so a piece is a relation
between the piece and the bytes behind it. Every list of bytes divides in exactly
one way into leading pieces and a rest that no piece starts.
-/

namespace StatementEnd
namespace Filler

/-- The six characters that are white space. -/
def spaces : List Char := [' ', '\t', '\n', '\x0b', '\x0c', '\r']

/-- The byte of a white space character. -/
def IsSpaceOctet (octet : UInt8) : Prop :=
  exists c, c ∈ spaces ∧ octet = c.toUInt8

/-- The two bytes that close a block comment. -/
def closing : List UInt8 := ['*'.toUInt8, '/'.toUInt8]

/-- A piece of filler in front of the bytes that follow it. -/
inductive Piece : List UInt8 -> List UInt8 -> Prop where
  | space {octet : UInt8} {more : List UInt8} :
      IsSpaceOctet octet -> Piece [octet] more
  /-- A line comment up to the next newline, or to the end. -/
  | line {body more : List UInt8} :
      '\n'.toUInt8 ∉ body ->
      (more = [] ∨ more.head? = some '\n'.toUInt8) ->
      Piece ('/'.toUInt8 :: '/'.toUInt8 :: body) more
  /-- A block comment through the first star-slash behind its opening. -/
  | block {body more : List UInt8} :
      ¬ closing <:+: body ++ ['*'.toUInt8] ->
      Piece ('/'.toUInt8 :: '*'.toUInt8 :: (body ++ closing)) more
  /-- A block comment that nothing closes, to the end. -/
  | openBlock {body : List UInt8} :
      ¬ closing <:+: body ->
      Piece ('/'.toUInt8 :: '*'.toUInt8 :: body) []

/-- Bytes that start with a piece of filler. -/
def StartsPiece (bytes : List UInt8) : Prop :=
  exists piece more, bytes = piece ++ more ∧ Piece piece more

/-- Bytes divided into leading pieces of filler and a rest that no piece starts. -/
inductive Divides : List UInt8 -> List (List UInt8) -> List UInt8 -> Prop where
  | stop {rest : List UInt8} : ¬ StartsPiece rest -> Divides rest [] rest
  | piece {first more rest : List UInt8} {pieces : List (List UInt8)} :
      Piece first more -> Divides more pieces rest ->
      Divides (first ++ more) (first :: pieces) rest

/-!
## White space bytes
-/

theorem isSpace_iff {c : Char} : isSpace c = true <-> c ∈ spaces := by
  simp [isSpace, spaces, or_assoc]

theorem plain_of_mem_spaces : forall c, c ∈ spaces -> Text.IsPlain c :=
  Text.forall_mem_of_all (by decide)

theorem not_isSpaceOctet_slash : ¬ IsSpaceOctet '/'.toUInt8 := by
  intro h
  rcases h with ⟨c, hc, heq⟩
  have hother : forall c, c ∈ spaces -> '/'.toUInt8 ≠ c.toUInt8 :=
    Text.forall_mem_of_all (by decide)
  exact hother c hc heq

/-!
## Occurrences of the closing bytes
-/

theorem closing_infix_cons {octet : UInt8} {rest : List UInt8} :
    closing <:+: octet :: rest <->
      (octet = '*'.toUInt8 ∧ rest.head? = some '/'.toUInt8) ∨ closing <:+: rest := by
  rw [List.infix_cons_iff, closing, List.cons_prefix_cons]
  cases rest with
  | nil => simp
  | cons second rest =>
      simp only [List.cons_prefix_cons, List.nil_prefix, and_true, List.head?_cons,
        Option.some.injEq]
      rw [eq_comm, @eq_comm _ second]

theorem not_closing_infix_nil : ¬ closing <:+: [] := by
  simp [closing]

theorem closing_infix_iff {bytes : List UInt8} :
    closing <:+: bytes <->
      exists i : Nat, bytes[i]? = some '*'.toUInt8 ∧ bytes[i + 1]? = some '/'.toUInt8 := by
  induction bytes with
  | nil => simp [closing]
  | cons octet rest ih =>
      rw [closing_infix_cons, ih]
      constructor
      · intro h
        rcases h with ⟨hstar, hslash⟩ | ⟨i, hstar, hslash⟩
        · refine ⟨0, by rw [hstar]; rfl, ?_⟩
          rw [List.getElem?_cons_succ, ← List.head?_eq_getElem?]
          exact hslash
        · exact ⟨i + 1, hstar, hslash⟩
      · intro h
        rcases h with ⟨i, hstar, hslash⟩
        cases i with
        | zero =>
            apply Or.inl
            constructor
            · simpa using hstar
            · rw [List.head?_eq_getElem?]
              simpa using hslash
        | succ i => exact Or.inr ⟨i, by simpa using hstar, by simpa using hslash⟩

/-- The first closing bytes of a list, or none. -/
theorem exists_first_closing (bytes : List UInt8) :
    (exists body more, bytes = body ++ closing ++ more ∧
      ¬ closing <:+: body ++ ['*'.toUInt8]) ∨ ¬ closing <:+: bytes := by
  induction bytes with
  | nil => exact Or.inr not_closing_infix_nil
  | cons octet rest ih =>
      by_cases hhere : octet = '*'.toUInt8 ∧ rest.head? = some '/'.toUInt8
      · rcases hhere with ⟨hstar, hslash⟩
        rcases List.head?_eq_some_iff.mp hslash with ⟨more, hrest⟩
        refine Or.inl ⟨[], more, by rw [hstar, hrest]; rfl, ?_⟩
        intro hinfix
        rcases closing_infix_cons.mp hinfix with ⟨_, hsecond⟩ | hlater
        · cases hsecond
        · exact not_closing_infix_nil hlater
      · rcases ih with ⟨body, more, hbytes, hbody⟩ | hnone
        · refine Or.inl ⟨octet :: body, more, by rw [hbytes]; rfl, ?_⟩
          intro hinfix
          rcases closing_infix_cons.mp hinfix with ⟨hstar, hslash⟩ | hlater
          · apply hhere
            refine ⟨hstar, ?_⟩
            rw [hbytes]
            cases body with
            | nil => exact absurd hslash (by decide)
            | cons first body => simpa using hslash
          · exact hbody hlater
        · apply Or.inr
          intro hinfix
          rcases closing_infix_cons.mp hinfix with hfirst | hlater
          · exact hhere hfirst
          · exact hnone hlater

/-!
## Which bytes start a piece
-/

theorem exists_line_body (bytes : List UInt8) :
    exists body more, bytes = body ++ more ∧ '\n'.toUInt8 ∉ body ∧
      (more = [] ∨ more.head? = some '\n'.toUInt8) := by
  induction bytes with
  | nil => exact ⟨[], [], rfl, by simp, Or.inl rfl⟩
  | cons octet rest ih =>
      by_cases hnewline : octet = '\n'.toUInt8
      · exact ⟨[], octet :: rest, rfl, by simp, Or.inr (by rw [hnewline]; rfl)⟩
      · rcases ih with ⟨body, more, hbytes, hbody, hmore⟩
        refine ⟨octet :: body, more, by rw [hbytes]; rfl, ?_, hmore⟩
        intro hmem
        rcases List.mem_cons.mp hmem with heq | htail
        · exact hnewline heq.symm
        · exact hbody htail

theorem startsPiece_space {octet : UInt8} (h : IsSpaceOctet octet) (more : List UInt8) :
    StartsPiece (octet :: more) :=
  ⟨[octet], more, rfl, Piece.space h⟩

theorem startsPiece_line (bytes : List UInt8) :
    StartsPiece ('/'.toUInt8 :: '/'.toUInt8 :: bytes) := by
  rcases exists_line_body bytes with ⟨body, more, hbytes, hbody, hmore⟩
  exact ⟨_, more, by rw [hbytes]; rfl, Piece.line hbody hmore⟩

theorem startsPiece_block (bytes : List UInt8) :
    StartsPiece ('/'.toUInt8 :: '*'.toUInt8 :: bytes) := by
  rcases exists_first_closing bytes with ⟨body, more, hbytes, hbody⟩ | hnone
  · exact ⟨_, more, by rw [hbytes]; rfl, Piece.block hbody⟩
  · exact ⟨_, [], by rw [List.append_nil], Piece.openBlock hnone⟩

theorem piece_ne_nil {piece more : List UInt8} (h : Piece piece more) : piece ≠ [] := by
  cases h <;> simp

theorem not_startsPiece_slash {more : List UInt8} (hline : more.head? ≠ some '/'.toUInt8)
    (hblock : more.head? ≠ some '*'.toUInt8) : ¬ StartsPiece ('/'.toUInt8 :: more) := by
  intro h
  rcases h with ⟨piece, later, hbytes, hpiece⟩
  cases hpiece with
  | space hspace =>
      injection hbytes with hfirst _
      rw [← hfirst] at hspace
      exact not_isSpaceOctet_slash hspace
  | line _ _ =>
      injection hbytes with _ hmore
      exact hline (by rw [hmore]; rfl)
  | block _ =>
      injection hbytes with _ hmore
      exact hblock (by rw [hmore]; rfl)
  | openBlock _ =>
      injection hbytes with _ hmore
      exact hblock (by rw [hmore]; rfl)

/-!
## Only one piece at the front
-/

private theorem line_body_le {body more body' more' : List UInt8}
    (h : body ++ more = body' ++ more') (hbody : '\n'.toUInt8 ∉ body)
    (hmore' : more' = [] ∨ more'.head? = some '\n'.toUInt8) :
    body.length ≤ body'.length := by
  apply Nat.le_of_not_lt
  intro hlt
  rcases hmore' with hnil | hnewline
  · have hlen := congrArg List.length h
    rw [hnil] at hlen
    simp at hlen
    omega
  · apply hbody
    have hget := congrArg (fun bytes => bytes[body'.length]?) h
    simp only [List.getElem?_append_left hlt, List.getElem?_append_right (Nat.le_refl _),
      Nat.sub_self, ← List.head?_eq_getElem?, hnewline] at hget
    exact List.mem_of_getElem? hget

private theorem block_body_le {body more body' more' : List UInt8}
    (h : body ++ (closing ++ more) = body' ++ (closing ++ more'))
    (hbody : ¬ closing <:+: body ++ ['*'.toUInt8]) : body.length ≤ body'.length := by
  apply Nat.le_of_not_lt
  intro hlt
  apply hbody
  have hsplit : body ++ (closing ++ more) =
      (body ++ ['*'.toUInt8]) ++ '/'.toUInt8 :: more := by
    simp [closing]
  have hlen : (body ++ ['*'.toUInt8]).length = body.length + 1 := by simp
  rw [hsplit] at h
  apply closing_infix_iff.mpr
  refine ⟨body'.length, ?_, ?_⟩
  · have hget := congrArg (fun bytes => bytes[body'.length]?) h
    simp only [List.getElem?_append_right (Nat.le_refl body'.length), Nat.sub_self] at hget
    rw [List.getElem?_append_left (by omega)] at hget
    rw [hget]
    rfl
  · have hget := congrArg (fun bytes => bytes[body'.length + 1]?) h
    simp only [List.getElem?_append_right (Nat.le_add_right body'.length 1),
      Nat.add_sub_cancel_left] at hget
    rw [List.getElem?_append_left (by omega)] at hget
    rw [hget]
    rfl

private theorem front_of_piece {piece more : List UInt8} (h : Piece piece more) :
    piece.length = 1 ∨ exists tail, piece = '/'.toUInt8 :: tail := by
  cases h with
  | space _ => exact Or.inl rfl
  | line _ _ => exact Or.inr ⟨_, rfl⟩
  | block _ => exact Or.inr ⟨_, rfl⟩
  | openBlock _ => exact Or.inr ⟨_, rfl⟩

private theorem slash_ne_star : '/'.toUInt8 ≠ '*'.toUInt8 := by decide

private theorem piece_length_le {piece more piece' more' : List UInt8}
    (h : Piece piece more) (h' : Piece piece' more')
    (heq : piece ++ more = piece' ++ more') : piece.length ≤ piece'.length := by
  have hpos : 1 ≤ piece'.length := List.length_pos_iff.mpr (piece_ne_nil h')
  cases h' with
  | space hspace =>
      rcases front_of_piece h with hone | ⟨tail, htail⟩
      · exact Nat.le_of_eq hone
      · rw [htail] at heq
        injection heq with hhead _
        rw [← hhead] at hspace
        exact absurd hspace not_isSpaceOctet_slash
  | line hbody' hmore' =>
      cases h with
      | space _ => exact hpos
      | line hbody _ =>
          simp only [List.cons_append, List.cons.injEq, true_and] at heq
          exact Nat.add_le_add_right (line_body_le heq hbody hmore') 2
      | block _ =>
          simp only [List.cons_append, List.cons.injEq] at heq
          exact absurd heq.2.1.symm slash_ne_star
      | openBlock _ =>
          simp only [List.cons_append, List.cons.injEq] at heq
          exact absurd heq.2.1.symm slash_ne_star
  | block hbody' =>
      cases h with
      | space _ => exact hpos
      | line _ _ =>
          simp only [List.cons_append, List.cons.injEq] at heq
          exact absurd heq.2.1 slash_ne_star
      | block hbody =>
          simp only [List.cons_append, List.cons.injEq, true_and, List.append_assoc] at heq
          have hle := block_body_le heq hbody
          simpa using hle
      | openBlock hbody =>
          simp only [List.cons_append, List.cons.injEq, true_and, List.append_nil] at heq
          exact absurd ⟨_, _, heq.symm⟩ hbody
  | openBlock hbody' =>
      cases h with
      | space _ => exact hpos
      | line _ _ =>
          simp only [List.cons_append, List.cons.injEq] at heq
          exact absurd heq.2.1 slash_ne_star
      | block hbody =>
          simp only [List.cons_append, List.cons.injEq, true_and, List.append_nil] at heq
          exact absurd ⟨_, _, heq⟩ hbody'
      | openBlock hbody =>
          rw [List.append_nil, List.append_nil] at heq
          rw [heq]

theorem piece_unique {piece more piece' more' : List UInt8}
    (h : Piece piece more) (h' : Piece piece' more')
    (heq : piece ++ more = piece' ++ more') : piece = piece' ∧ more = more' := by
  apply List.append_inj heq
  apply Nat.le_antisymm
  · exact piece_length_le h h' heq
  · exact piece_length_le h' h heq.symm

/-!
## Dividing bytes
-/

theorem append_of_divides {bytes rest : List UInt8} {pieces : List (List UInt8)}
    (h : Divides bytes pieces rest) : bytes = pieces.flatten ++ rest := by
  induction h with
  | stop _ => rfl
  | piece _ _ ih => rw [ih, List.flatten_cons, List.append_assoc]

theorem exists_divides (bytes : List UInt8) :
    exists pieces rest, Divides bytes pieces rest := by
  induction hn : bytes.length using Nat.strongRecOn generalizing bytes with
  | ind n ih =>
      by_cases hstarts : StartsPiece bytes
      · rcases hstarts with ⟨first, more, hbytes, hfirst⟩
        have hpos := List.length_pos_iff.mpr (piece_ne_nil hfirst)
        have hshorter : more.length < n := by
          rw [← hn, hbytes, List.length_append]
          omega
        rcases ih more.length hshorter more rfl with ⟨pieces, rest, hdivides⟩
        rw [hbytes]
        exact ⟨first :: pieces, rest, Divides.piece hfirst hdivides⟩
      · exact ⟨[], bytes, Divides.stop hstarts⟩

theorem divides_unique {bytes rest rest' : List UInt8} {pieces pieces' : List (List UInt8)}
    (h : Divides bytes pieces rest) (h' : Divides bytes pieces' rest') :
    pieces' = pieces ∧ rest' = rest := by
  induction h generalizing pieces' rest' with
  | stop hstop =>
      cases h' with
      | stop _ => exact ⟨rfl, rfl⟩
      | piece hfirst _ => exact absurd ⟨_, _, rfl, hfirst⟩ hstop
  | @piece first more rest pieces hfirst _ ih =>
      generalize hbytes : first ++ more = bytes at h'
      cases h' with
      | stop hstop => exact absurd ⟨_, _, hbytes.symm, hfirst⟩ hstop
      | piece hfirst' hmore' =>
          rcases piece_unique hfirst hfirst' hbytes with ⟨hpiece, hmore⟩
          subst hpiece hmore
          rcases ih hmore' with ⟨hpieces, hrest⟩
          exact ⟨by rw [hpieces], hrest⟩

end Filler
end StatementEnd
