import Lookahead.Source.Token
import Lookahead.Proofs.Text.Words

/-!
# Layouts of tokens

A line is a layout of lexemes when it consists of their spellings, in order, with
blanks anywhere between them.  A nonterminal ends where no further character of a
name follows.  Reading the tokens of a line succeeds on layouts and gives back
their lexemes.
-/

namespace Lookahead.Source

namespace Token

/-- The spelling of a token can be read as that token. -/
def IsSpelled : Token → Prop
  | .equals => True
  | .bar => True
  | .nonterminal name => name ≠ "" ∧ ∀ char ∈ name.toList, isNameChar char = true
  | .terminal text => '"' ∉ text.toList

instance : DecidablePred IsSpelled
  | .equals => inferInstanceAs (Decidable True)
  | .bar => inferInstanceAs (Decidable True)
  | .nonterminal name =>
      decidable_of_iff (name ≠ "" ∧ name.toList.all isNameChar = true)
        (and_congr_right fun _ => List.all_eq_true)
  | .terminal text => inferInstanceAs (Decidable ('"' ∉ text.toList))

/-- A token does not go on with the characters after it. -/
def EndsBefore (rest : List Char) : Token → Prop
  | .nonterminal _ => ∀ char, rest.head? = some char → isNameChar char = false
  | _ => True

end Token

/-- Characters that begin at a byte are laid out from lexemes. -/
inductive Layout : Nat → List Char → List Lexeme → Prop where
  | done (start : Nat) : Layout start [] []
  | blank {start : Nat} {char : Char} {rest : List Char} {lexemes : List Lexeme} :
      Text.isBlank char = true → Layout (start + char.utf8Size) rest lexemes →
        Layout start (char :: rest) lexemes
  | token {start : Nat} {token : Token} {rest : List Char} {lexemes : List Lexeme} :
      token.IsSpelled → token.EndsBefore rest → Layout (start + token.width) rest lexemes →
        Layout start (token.spelling ++ rest) (⟨token, start, start + token.width⟩ :: lexemes)

variable {start : Nat} {first : Char} {rest unread chars : List Char} {token : Token}
variable {lexemes : List Lexeme}

theorem isNameChar_iff {char : Char} :
    isNameChar char = true ↔
      Text.isBlank char = false ∧ char ≠ '=' ∧ char ≠ '|' ∧ char ≠ '"' := by
  simp [isNameChar, and_assoc]

/-! ## One token -/

theorem readTerminal_spelling {text : String} (spelled : (Token.terminal text).IsSpelled) :
    readTerminal ((Token.terminal text).spelling ++ unread) = (.ok (.terminal text), unread) := by
  have inside : ∀ char ∈ text.toList, isQuotedChar char = true := by
    intro char member
    simp only [isQuotedChar, bne_iff_ne, ne_eq]
    intro quote
    exact spelled (quote ▸ member)
  have outside : ∀ char, ('"' :: unread).head? = some char → isQuotedChar char = false := by
    simp [isQuotedChar]
  have run := Text.cut_run inside outside
  simp [readTerminal, Token.spelling, run]

theorem readToken_spelling (spelled : token.IsSpelled) (ends : token.EndsBefore unread)
    (begins : token.spelling ++ unread = first :: rest) :
    Text.isBlank first = false ∧ readToken first rest = (.ok token, unread) := by
  cases token with
  | equals =>
      cases begins
      exact ⟨by decide, rfl⟩
  | bar =>
      cases begins
      exact ⟨by decide, rfl⟩
  | terminal text =>
      have read : readTerminal (first :: rest) = (.ok (.terminal text), unread) := by
        rw [← begins]
        exact readTerminal_spelling spelled
      cases begins
      exact ⟨by decide, read⟩
  | nonterminal name =>
      have run := Text.cut_run spelled.2 ends
      simp only [Token.spelling] at begins
      rw [begins] at run
      cases letters : name.toList with
      | nil => exact absurd (String.toList_eq_nil_iff.1 letters) spelled.1
      | cons letter letters' =>
          have sameFirst : letter = first := by
            rw [letters] at begins
            exact (List.cons.inj begins).1
          have named := spelled.2 letter (by simp [letters])
          rw [sameFirst, isNameChar_iff] at named
          constructor
          · exact named.1
          · simp [readToken, named, readNonterminal, run]

theorem spelling_of_readTerminal (read : readTerminal ('"' :: rest) = (.ok token, unread)) :
    token.spelling ++ unread = '"' :: rest ∧ token.IsSpelled ∧ token.EndsBefore unread := by
  simp only [readTerminal, List.drop_succ_cons, List.drop_zero] at read
  split at read
  · cases read
  · next quote after found =>
      cases read
      have closing : quote = '"' := by
        have stops := List.head?_dropWhile_not isQuotedChar rest
        rw [found] at stops
        simpa [isQuotedChar] using stops
      refine ⟨?_, ?_, trivial⟩
      · have whole := List.takeWhile_append_dropWhile (p := isQuotedChar) (l := rest)
        rw [found, closing] at whole
        simp [Token.spelling, whole]
      · intro member
        rw [String.toList_ofList] at member
        have accepted := List.mem_takeWhile_imp member
        simp [isQuotedChar] at accepted

theorem spelling_of_readToken (solid : Text.isBlank first = false)
    (read : readToken first rest = (.ok token, unread)) :
    token.spelling ++ unread = first :: rest ∧ token.IsSpelled ∧ token.EndsBefore unread := by
  unfold readToken at read
  split at read
  · next equal =>
      cases read
      exact ⟨equal ▸ rfl, trivial, trivial⟩
  · split at read
    · next equal =>
        cases read
        exact ⟨equal ▸ rfl, trivial, trivial⟩
    · split at read
      · next equal =>
          subst equal
          exact spelling_of_readTerminal read
      · next notEquals notBar notQuote =>
          have named : isNameChar first = true :=
            isNameChar_iff.2 ⟨solid, notEquals, notBar, notQuote⟩
          cases read
          refine ⟨?_, ⟨?_, ?_⟩, ?_⟩
          · simp [Token.spelling, List.takeWhile_append_dropWhile]
          · simp [named]
          · intro char member
            rw [String.toList_ofList] at member
            exact List.mem_takeWhile_imp member
          · intro char head
            have stops := List.head?_dropWhile_not isNameChar (first :: rest)
            rw [head] at stops
            simpa using stops

/-! ## Layouts -/

/-- What is laid out can be spelled, and its spelling is part of the line. -/
theorem Layout.spelled_of_mem {lexeme : Lexeme} (layout : Layout start chars lexemes)
    (member : lexeme ∈ lexemes) :
    lexeme.value.IsSpelled ∧ ∀ char ∈ lexeme.value.spelling, char ∈ chars := by
  induction layout with
  | done => cases member
  | blank _ _ ih =>
      rcases ih member with ⟨spelled, inRest⟩
      exact ⟨spelled, fun char inside => List.mem_cons_of_mem _ (inRest char inside)⟩
  | token spelled _ _ ih =>
      cases member with
      | head => exact ⟨spelled, fun char inside => List.mem_append_left _ inside⟩
      | tail _ later =>
          rcases ih later with ⟨spelled, inRest⟩
          exact ⟨spelled, fun char inside => List.mem_append_right _ (inRest char inside)⟩

theorem Token.IsSpelled.spelling_ne_nil (spelled : token.IsSpelled) : token.spelling ≠ [] := by
  cases token with
  | equals => simp [Token.spelling]
  | bar => simp [Token.spelling]
  | terminal text => simp [Token.spelling]
  | nonterminal name =>
      intro empty
      exact spelled.1 (String.toList_eq_nil_iff.1 empty)

/-- A layout without lexemes holds blanks only. -/
theorem Layout.blank_of_nil (layout : Layout start chars []) :
    ∀ char ∈ chars, Text.isBlank char = true := by
  generalize none : [] = found at layout
  induction layout with
  | done => simp
  | blank blank _ ih => exact List.forall_mem_cons.2 ⟨blank, ih none⟩
  | token => cases none

/-- Blanks may be added at the front of a layout. -/
theorem Layout.append_blanks {lead : List Char}
    (blanks : ∀ char ∈ lead, Text.isBlank char = true)
    (layout : Layout (start + Text.byteLength lead) chars lexemes) :
    Layout start (lead ++ chars) lexemes := by
  induction lead generalizing start with
  | nil => exact layout
  | cons char lead ih =>
      rw [List.forall_mem_cons] at blanks
      rw [Text.byteLength_cons, ← Nat.add_assoc] at layout
      exact .blank blanks.1 (ih blanks.2 layout)

/-- The first token stands after the blanks at the front, and the other lexemes
are laid out after it. -/
theorem Layout.uncons {lexeme : Lexeme} (layout : Layout start chars (lexeme :: lexemes)) :
    ∃ blanks rest, chars = blanks ++ (lexeme.value.spelling ++ rest) ∧
      (∀ char ∈ blanks, Text.isBlank char = true) ∧
      lexeme.span.start = start + Text.byteLength blanks ∧
      lexeme.span.stop = lexeme.span.start + lexeme.value.width ∧
      lexeme.value.IsSpelled ∧ lexeme.value.EndsBefore rest ∧
      Layout lexeme.span.stop rest lexemes := by
  generalize shown : lexeme :: lexemes = found at layout
  induction layout with
  | done => cases shown
  | @blank start char rest _ blank _ ih =>
      obtain ⟨blanks, later, rfl, only, begins, place⟩ := ih shown
      refine ⟨char :: blanks, later, rfl, List.forall_mem_cons.2 ⟨blank, only⟩, ?_, place⟩
      rw [begins, Text.byteLength_cons, Nat.add_assoc]
  | @token start token rest others spelled ends layout _ =>
      cases shown
      exact ⟨[], rest, rfl, by simp, rfl, rfl, spelled, ends, layout⟩

/-! ## All tokens -/

theorem lexFrom_blank {char : Char} (blank : Text.isBlank char = true) :
    lexFrom start (char :: rest) = lexFrom (start + char.utf8Size) rest := by
  rw [lexFrom, dif_pos blank]

theorem lexFrom_token (solid : Text.isBlank first = false)
    (read : readToken first rest = (.ok token, unread)) :
    lexFrom start (first :: rest) =
      (lexFrom (start + token.width) unread).map
        (⟨token, start, start + token.width⟩ :: ·) := by
  rw [lexFrom, dif_neg (by simp [solid])]
  split
  · next fault after failed =>
      rw [read] at failed
      cases failed
  · next other after found =>
      rw [read] at found
      cases found
      rfl

theorem lexFrom_error {fault : Fault} (solid : Text.isBlank first = false)
    (read : readToken first rest = (.error fault, unread)) :
    lexFrom start (first :: rest) =
      .error ⟨fault, start, start + Text.byteLength (first :: rest)⟩ := by
  rw [lexFrom, dif_neg (by simp [solid])]
  split
  · next other after failed =>
      rw [read] at failed
      cases failed
      rfl
  · next token after found =>
      rw [read] at found
      cases found

theorem lexFrom_of_layout (layout : Layout start chars lexemes) :
    lexFrom start chars = .ok lexemes := by
  induction layout with
  | done start => rw [lexFrom]
  | blank blank _ ih => rw [lexFrom_blank blank, ih]
  | @token start token rest lexemes spelled ends _ ih =>
      cases spelling : token.spelling ++ rest with
      | nil => exact absurd (List.append_eq_nil_iff.1 spelling).1 spelled.spelling_ne_nil
      | cons first after =>
          have read := readToken_spelling spelled ends spelling
          rw [lexFrom_token read.1 read.2, ih]
          rfl

theorem layout_of_lexFrom (start : Nat) (chars : List Char) :
    ∀ {lexemes}, lexFrom start chars = .ok lexemes → Layout start chars lexemes := by
  induction start, chars using lexFrom.induct with
  | case1 start =>
      intro lexemes read
      rw [lexFrom] at read
      cases read
      exact .done start
  | case2 start first rest blank ih =>
      intro lexemes read
      rw [lexFrom_blank blank] at read
      exact .blank blank (ih read)
  | case3 start first rest solid fault after failed =>
      intro lexemes read
      rw [lexFrom_error (Bool.eq_false_iff.2 solid) failed] at read
      cases read
  | @case4 start first rest solid token unread found shorter stop ih =>
      intro lexemes read
      have solid := Bool.eq_false_iff.2 solid
      rw [lexFrom_token solid found] at read
      cases later : lexFrom (start + token.width) unread with
      | error diagnostic =>
          rw [later] at read
          cases read
      | ok others =>
          rw [later] at read
          cases read
          rcases spelling_of_readToken solid found with ⟨spelling, spelled, ends⟩
          rw [← spelling]
          exact .token spelled ends (ih later)

/-- Reading the tokens of a line succeeds exactly on layouts. -/
theorem lexFrom_eq_ok_iff_layout :
    lexFrom start chars = .ok lexemes ↔ Layout start chars lexemes :=
  ⟨layout_of_lexFrom start chars, lexFrom_of_layout⟩

end Lookahead.Source
