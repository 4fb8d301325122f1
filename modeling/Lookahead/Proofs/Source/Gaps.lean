import Lookahead.Proofs.Source.Places
import Mathlib.Data.List.Chain

/-!
# Gaps between tokens

A line is tokens and gaps in turn when blanks, or nothing at all, stand at its front
and after each token, and two nonterminals in a row are kept apart by a blank.  The
tokens of such a line are read, each with the bytes that it takes up, and no other
line is read.
-/

namespace Lookahead.Source

/-- Whether a token is a nonterminal, the only kind that more characters could
prolong. -/
def Token.isNonterminal : Token → Bool
  | .nonterminal _ => true
  | _ => false

/-- A lexeme and the gap after it. -/
structure Piece where
  lexeme : Lexeme
  gap : List Char
  deriving DecidableEq

namespace Piece

/-- The characters of a piece. -/
def chars (piece : Piece) : List Char :=
  piece.lexeme.value.spelling ++ piece.gap

/-- If both pieces hold nonterminals, there is a gap between these. -/
def ApartFrom (piece next : Piece) : Prop :=
  piece.lexeme.value.isNonterminal = true → next.lexeme.value.isNonterminal = true →
    piece.gap ≠ []

end Piece

/-- A gap that begins at byte `start` and the pieces after it. -/
structure Interleaved (start : Nat) (lead : List Char) (pieces : List Piece) : Prop where
  leadBlank : ∀ char ∈ lead, Text.isBlank char = true
  gapsBlank : ∀ piece ∈ pieces, ∀ char ∈ piece.gap, Text.isBlank char = true
  spelled : ∀ piece ∈ pieces, piece.lexeme.value.IsSpelled
  apart : pieces.IsChain Piece.ApartFrom
  /-- A lexeme has the bytes of its spelling, after all that stands before it. -/
  placed : ∀ front piece back, pieces = front ++ piece :: back →
    piece.lexeme.span.start = start + Text.byteLength (lead ++ front.flatMap Piece.chars) ∧
      piece.lexeme.span.stop =
        piece.lexeme.span.start + Text.byteLength piece.lexeme.value.spelling

/-- Characters that begin at byte `start` are the tokens of these lexemes and gaps in
turn. -/
def IsInterleaved (start : Nat) (chars : List Char) (lexemes : List Lexeme) : Prop :=
  ∃ lead pieces, Interleaved start lead pieces ∧
    chars = lead ++ pieces.flatMap Piece.chars ∧ lexemes = pieces.map Piece.lexeme

variable {start : Nat} {chars lead rest gap : List Char} {lexemes : List Lexeme}
variable {piece : Piece} {pieces : List Piece} {token : Token}

/-! ## Pieces one by one -/

theorem interleaved_nil (blanks : ∀ char ∈ lead, Text.isBlank char = true) :
    Interleaved start lead [] := by
  constructor
  · exact blanks
  · simp
  · simp
  · exact .nil
  · intro front piece back shape
    simp at shape

/-- What comes after the first token is again a gap and pieces. -/
theorem interleaved_cons_iff :
    Interleaved start lead (piece :: pieces) ↔
      (∀ char ∈ lead, Text.isBlank char = true) ∧
        piece.lexeme.span.start = start + Text.byteLength lead ∧
        piece.lexeme.span.stop = piece.lexeme.span.start + piece.lexeme.value.width ∧
        piece.lexeme.value.IsSpelled ∧ (∀ next ∈ pieces.head?, piece.ApartFrom next) ∧
        Interleaved piece.lexeme.span.stop piece.gap pieces := by
  constructor
  · intro interleaved
    have first := interleaved.placed [] piece pieces rfl
    have blanks := List.forall_mem_cons.1 interleaved.gapsBlank
    have spelled := List.forall_mem_cons.1 interleaved.spelled
    have apart := List.isChain_cons.1 interleaved.apart
    rw [List.flatMap_nil, List.append_nil] at first
    refine ⟨interleaved.leadBlank, first.1, first.2, spelled.1, apart.1, ?_⟩
    constructor
    · exact blanks.1
    · exact blanks.2
    · exact spelled.2
    · exact apart.2
    · intro front next back shape
      have place := interleaved.placed (piece :: front) next back (by rw [shape]; rfl)
      refine ⟨?_, place.2⟩
      rw [place.1, first.2, first.1]
      simp only [List.flatMap_cons, Text.byteLength_append, Piece.chars]
      omega
  · intro given
    obtain ⟨blanks, begins, ends, spelled, apart, later⟩ := given
    constructor
    · exact blanks
    · exact List.forall_mem_cons.2 ⟨later.leadBlank, later.gapsBlank⟩
    · exact List.forall_mem_cons.2 ⟨spelled, later.spelled⟩
    · exact List.isChain_cons.2 ⟨apart, later.apart⟩
    · intro front next back shape
      cases front with
      | nil =>
          cases shape
          simpa using ⟨begins, ends⟩
      | cons first front =>
          cases shape
          have place := later.placed front next back rfl
          refine ⟨?_, place.2⟩
          rw [place.1, ends, begins]
          simp only [List.flatMap_cons, Text.byteLength_append, Piece.chars, Token.width]
          omega

/-- Only the spelling of a nonterminal begins with a character of a name. -/
theorem isNameChar_first_spelling {first : Char} {after : List Char} (spelled : token.IsSpelled)
    (begins : token.spelling ++ rest = first :: after) :
    isNameChar first = token.isNonterminal := by
  cases token with
  | equals => cases begins; rfl
  | bar => cases begins; rfl
  | terminal text => cases begins; rfl
  | nonterminal name =>
      cases letters : name.toList with
      | nil => exact absurd (String.toList_eq_nil_iff.1 letters) spelled.1
      | cons letter others =>
          rw [Token.spelling, letters] at begins
          cases begins
          exact spelled.2 first (letters ▸ List.mem_cons_self)

/-- A token ends before a gap and further pieces exactly if it is kept apart from
the next one. -/
theorem endsBefore_iff_apart (piece : Piece)
    (blanks : ∀ char ∈ piece.gap, Text.isBlank char = true)
    (spelled : ∀ next ∈ pieces, next.lexeme.value.IsSpelled) :
    piece.lexeme.value.EndsBefore (piece.gap ++ pieces.flatMap Piece.chars) ↔
      ∀ next ∈ pieces.head?, piece.ApartFrom next := by
  obtain ⟨⟨token, span⟩, gap⟩ := piece
  cases token with
  | nonterminal name =>
      cases gap with
      | cons char gap =>
          have solid : isNameChar char = false := by
            simp [isNameChar, List.forall_mem_cons.1 blanks]
          simp [Token.EndsBefore, Piece.ApartFrom, solid]
      | nil =>
          cases pieces with
          | nil => simp [Token.EndsBefore]
          | cons next pieces =>
              have isSpelled := (List.forall_mem_cons.1 spelled).1
              cases shape : next.lexeme.value.spelling ++ (next.gap ++ pieces.flatMap Piece.chars) with
              | nil => exact absurd (List.append_eq_nil_iff.1 shape).1 isSpelled.spelling_ne_nil
              | cons first after =>
                  have kind := isNameChar_first_spelling isSpelled shape
                  simp [Token.EndsBefore, Piece.ApartFrom, Piece.chars, shape, kind,
                    Token.isNonterminal]
  | equals => simp [Token.EndsBefore, Piece.ApartFrom, Token.isNonterminal]
  | bar => simp [Token.EndsBefore, Piece.ApartFrom, Token.isNonterminal]
  | terminal text => simp [Token.EndsBefore, Piece.ApartFrom, Token.isNonterminal]

/-! ## Layouts -/

theorem isInterleaved_of_layout (layout : Layout start chars lexemes) :
    IsInterleaved start chars lexemes := by
  induction lexemes generalizing start chars with
  | nil => exact ⟨chars, [], interleaved_nil layout.blank_of_nil, by simp, rfl⟩
  | cons lexeme lexemes ih =>
      obtain ⟨lead, rest, rfl, blanks, begins, ends, spelled, endsBefore, later⟩ := layout.uncons
      obtain ⟨gap, pieces, interleaved, rfl, rfl⟩ := ih later
      have apart := (endsBefore_iff_apart ⟨lexeme, gap⟩ interleaved.leadBlank
        interleaved.spelled).1 endsBefore
      refine ⟨lead, ⟨lexeme, gap⟩ :: pieces, ?_, ?_, rfl⟩
      · exact interleaved_cons_iff.2 ⟨blanks, begins, ends, spelled, apart, interleaved⟩
      · simp [Piece.chars]

theorem Interleaved.layout (interleaved : Interleaved start lead pieces) :
    Layout start (lead ++ pieces.flatMap Piece.chars) (pieces.map Piece.lexeme) := by
  induction pieces generalizing start lead with
  | nil => exact .append_blanks interleaved.leadBlank (.done _)
  | cons piece pieces ih =>
      obtain ⟨blanks, begins, ends, spelled, apart, later⟩ := interleaved_cons_iff.1 interleaved
      have endsBefore := (endsBefore_iff_apart piece later.leadBlank later.spelled).2 apart
      have layout := ih later
      obtain ⟨⟨token, first, last⟩, gap⟩ := piece
      dsimp only at begins ends
      subst begins ends
      apply Layout.append_blanks blanks
      simp only [List.flatMap_cons, Piece.chars, List.append_assoc]
      exact .token spelled endsBefore layout

/-- Layouts are the tokens and gaps in turn. -/
theorem isInterleaved_iff_layout :
    IsInterleaved start chars lexemes ↔ Layout start chars lexemes := by
  constructor
  · intro given
    obtain ⟨lead, pieces, interleaved, rfl, rfl⟩ := given
    exact interleaved.layout
  · exact isInterleaved_of_layout

/-- What no lexeme takes up is blank. -/
theorem Layout.blank_or_covered (layout : Layout start chars lexemes) {front back : List Char}
    {char : Char} (shape : chars = front ++ char :: back) :
    Text.isBlank char = true ∨
      ∃ lexeme ∈ lexemes, lexeme.span.start ≤ start + Text.byteLength front ∧
        start + Text.byteLength front < lexeme.span.stop := by
  induction layout generalizing front with
  | done => simp at shape
  | @blank start first rest lexemes blank _ ih =>
      cases front with
      | nil =>
          cases shape
          exact .inl blank
      | cons other front =>
          cases shape
          rw [Text.byteLength_cons, ← Nat.add_assoc]
          exact ih rfl
  | @token start token rest lexemes _ _ _ ih =>
      rcases Text.cons_append_cases shape with ⟨between, inToken⟩ | ⟨between, rfl, later⟩
      · have wide := char.utf8Size_pos
        refine .inr ⟨_, List.mem_cons_self, Nat.le_add_right _ _, ?_⟩
        simp only [Token.width, inToken, Text.byteLength_append, Text.byteLength_cons]
        omega
      · rcases ih later with blank | ⟨lexeme, member, begins, ends⟩
        · exact .inl blank
        · rw [Text.byteLength_append, ← Nat.add_assoc]
          exact .inr ⟨lexeme, List.mem_cons_of_mem _ member, begins, ends⟩

/-- Reading the tokens of a line succeeds exactly if the line is tokens and gaps in
turn, and gives these tokens with the bytes they take up.  They stand one after the
other within the line, only blanks are passed over, and there is no second way to
take the line apart. -/
theorem lex_eq_ok_iff_isInterleaved (line : String) (offset : Nat) (lexemes : List Lexeme) :
    (lex line offset = .ok lexemes ↔ IsInterleaved offset line.toList lexemes) ∧
      (IsInterleaved offset line.toList lexemes →
        ((lexemes.map Located.span).Pairwise fun span later => span.stop ≤ later.start) ∧
          (∀ lexeme ∈ lexemes, offset ≤ lexeme.span.start ∧
            lexeme.span.start < lexeme.span.stop ∧
              lexeme.span.stop ≤ offset + line.utf8ByteSize) ∧
          (∀ front char back, line.toList = front ++ char :: back →
            Text.isBlank char = true ∨
              ∃ lexeme ∈ lexemes, lexeme.span.start ≤ offset + Text.byteLength front ∧
                offset + Text.byteLength front < lexeme.span.stop) ∧
          ∀ others, IsInterleaved offset line.toList others → others = lexemes) := by
  have reads (found : List Lexeme) :
      lex line offset = .ok found ↔ IsInterleaved offset line.toList found :=
    lexFrom_eq_ok_iff_layout.trans isInterleaved_iff_layout.symm
  refine ⟨reads lexemes, ?_⟩
  intro interleaved
  have layout := isInterleaved_iff_layout.1 interleaved
  refine ⟨layout.disjoint, ?_, ?_, ?_⟩
  · intro lexeme member
    have bounds := (layout.marks member).bounds
    rw [Text.byteLength_toList] at bounds
    exact ⟨bounds.1, layout.start_lt_stop member, bounds.2.2⟩
  · intro front char back shape
    exact layout.blank_or_covered shape
  · intro others given
    have same := ((reads others).2 given).symm.trans ((reads lexemes).2 interleaved)
    cases same
    rfl

/-- A line with no more blanks than it needs, apart from the wide one at its front. -/
def tightLine : String :=
  "\u00a0λ \"=\"é|"

/-- Its tokens, when the line begins at byte five. -/
def tightLexemes : List Lexeme :=
  [⟨.nonterminal "λ", 7, 9⟩, ⟨.terminal "=", 10, 13⟩, ⟨.nonterminal "é", 13, 15⟩, ⟨.bar, 15, 16⟩]

theorem tightLine_read :
    IsInterleaved 5 tightLine.toList tightLexemes ∧
      ∀ others, IsInterleaved 5 tightLine.toList others → others = tightLexemes := by
  have meaning := lex_eq_ok_iff_isInterleaved tightLine 5 tightLexemes
  have read : lex tightLine 5 = .ok tightLexemes := by decide +kernel
  have interleaved := meaning.1.1 read
  exact ⟨interleaved, (meaning.2 interleaved).2.2.2⟩

end Lookahead.Source
