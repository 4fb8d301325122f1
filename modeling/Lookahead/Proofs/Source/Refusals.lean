import Lookahead.Proofs.Source.Rules

/-!
# Lexemes that are no rule

Lexemes that are not read as a rule are refused for the leftmost reason.  Equals signs
in different alternatives do not compete: the reader stops at the first alternative
that holds one, and there at the first one it holds.
-/

namespace Lookahead.Source

/-- What is wrong with lexemes that are no rule.  They are all that stands in the place
`span`. -/
inductive Refused (span : Span) : List Lexeme → Diagnostic → Prop where
  | blankRule : Refused span [] ⟨.blankRule, span⟩
  | notNonterminal {first : Lexeme} {lexemes : List Lexeme} :
      (∀ name, first.value ≠ .nonterminal name) →
        Refused span (first :: lexemes) ⟨.notNonterminal, first.span⟩
  | reservedName {place : Span} {lexemes : List Lexeme} :
      Refused span (⟨.nonterminal emptyLineName, place⟩ :: lexemes)
        ⟨.reservedName emptyLineName, place⟩
  /-- Nothing follows the name. -/
  | noSecond {name : String} {place : Span} :
      name ≠ emptyLineName → Refused span [⟨.nonterminal name, place⟩] ⟨.missingEquals, place⟩
  /-- Something else follows the name. -/
  | otherSecond {name : String} {place : Span} {second : Lexeme} {lexemes : List Lexeme} :
      name ≠ emptyLineName → second.value ≠ .equals →
        Refused span (⟨.nonterminal name, place⟩ :: second :: lexemes)
          ⟨.missingEquals, place.to second.span⟩
  /-- The right-hand side holds equals signs, and this is the first of them. -/
  | extraEquals {name : String} {place mark extra : Span} {front back : List Lexeme} :
      name ≠ emptyLineName → (∀ lexeme ∈ front, lexeme.value ≠ .equals) →
        Refused span
          (⟨.nonterminal name, place⟩ :: ⟨.equals, mark⟩ :: (front ++ ⟨.equals, extra⟩ :: back))
          ⟨.extraEquals, extra⟩

variable {ε α β : Type} {lexeme : Lexeme} {lexemes run rest front : List Lexeme}
variable {place span : Span} {diagnostic : Diagnostic}

theorem mapM_cons_eq_error_iff {read : α → Except ε β} {item : α} {items : List α} {fault : ε} :
    (item :: items).mapM read = .error fault ↔
      read item = .error fault ∨
        ∃ result, read item = .ok result ∧ items.mapM read = .error fault := by
  rw [List.mapM_cons]
  cases read item with
  | error other => simp [bind, Except.bind]
  | ok result =>
      cases items.mapM read with
      | error other => simp [bind, Except.bind]
      | ok others => simp [bind, Except.bind, pure, Except.pure]

/-! ## Right-hand sides -/

/-- A symbol in front of a run does not change its fault. -/
theorem alternativeOfLexemes_cons_eq_error (noEquals : lexeme.value ≠ .equals)
    (noBar : lexeme.value ≠ .bar) (failed : alternativeOfLexemes run = .error diagnostic) :
    alternativeOfLexemes (lexeme :: run) = .error diagnostic := by
  by_cases empty : lexeme.value = .terminal epsilon
  · rwa [alternativeOfLexemes_cons_empty empty]
  · have read : ∃ symbol, symbolOfLexeme lexeme = .ok symbol := by
      simp only [symbolOfLexeme_eq_ok_iff empty]
      cases shown : lexeme.value.symbol? with
      | none =>
          have mark := symbol?_eq_none_iff.1 shown
          simp [noEquals, noBar, empty] at mark
      | some symbol => exact ⟨_, rfl⟩
    obtain ⟨symbol, read⟩ := read
    rw [alternativeOfLexemes, List.filter_cons_of_pos (by simpa using empty)]
    exact mapM_cons_eq_error_iff.2 (.inr ⟨symbol, read, failed⟩)

/-- A symbol or a bar in front of a right-hand side does not change its fault. -/
theorem alternativesOfLexemes_cons_eq_error (noEquals : lexeme.value ≠ .equals)
    (failed : alternativesOfLexemes rest = .error diagnostic) :
    alternativesOfLexemes (lexeme :: rest) = .error diagnostic := by
  rw [alternativesOfLexemes] at failed ⊢
  by_cases bar : lexeme.value = .bar
  · rw [splitAtBars, if_pos bar]
    exact mapM_cons_eq_error_iff.2 (.inr ⟨[], rfl, failed⟩)
  · obtain ⟨run, later, runs, cut⟩ := exists_splitAtBars_cons bar rest
    rw [runs, mapM_cons_eq_error_iff] at failed
    rw [cut, mapM_cons_eq_error_iff]
    rcases failed with failed | ⟨alternative, read, failed⟩
    · exact .inl (alternativeOfLexemes_cons_eq_error noEquals bar failed)
    · obtain ⟨every, _⟩ := alternativeOfLexemes_eq_ok_iff.1 read
      have every := List.forall_mem_cons.2 ⟨⟨noEquals, bar⟩, every⟩
      exact .inr ⟨_, alternativeOfLexemes_eq_ok_iff.2 ⟨every, rfl⟩, failed⟩

theorem alternativesOfLexemes_cons_equals :
    alternativesOfLexemes (⟨.equals, place⟩ :: rest) = .error ⟨.extraEquals, place⟩ := by
  have noBar : (⟨.equals, place⟩ : Lexeme).value ≠ .bar := by simp
  obtain ⟨run, later, _, cut⟩ := exists_splitAtBars_cons noBar rest
  rw [alternativesOfLexemes, cut]
  exact mapM_cons_eq_error_iff.2 (.inl rfl)

/-- The first equals sign of a right-hand side is its fault. -/
theorem alternativesOfLexemes_append_equals
    (noEquals : ∀ lexeme ∈ front, lexeme.value ≠ .equals) :
    alternativesOfLexemes (front ++ ⟨.equals, place⟩ :: rest) =
      .error ⟨.extraEquals, place⟩ := by
  induction front with
  | nil => exact alternativesOfLexemes_cons_equals
  | cons lexeme front ih =>
      rw [List.forall_mem_cons] at noEquals
      exact alternativesOfLexemes_cons_eq_error noEquals.1 (ih noEquals.2)

/-- Lexemes have no equals sign among them, or there is a first one. -/
theorem noEquals_or_exists_first (lexemes : List Lexeme) :
    (∀ lexeme ∈ lexemes, lexeme.value ≠ .equals) ∨
      ∃ front place back, lexemes = front ++ ⟨.equals, place⟩ :: back ∧
        ∀ lexeme ∈ front, lexeme.value ≠ .equals := by
  cases found : lexemes.find? (·.value = .equals) with
  | none =>
      left
      simpa [List.find?_eq_none] using found
  | some first =>
      right
      obtain ⟨isEquals, front, back, rfl, earlier⟩ := List.find?_eq_some_iff_append.1 found
      rcases first with ⟨token, place⟩
      obtain rfl : token = .equals := by simpa using isEquals
      exact ⟨front, place, back, rfl, by simpa using earlier⟩

/-- A right-hand side is refused exactly for the first equals sign in it. -/
theorem alternativesOfLexemes_eq_error_iff :
    alternativesOfLexemes lexemes = .error diagnostic ↔
      ∃ front place back, lexemes = front ++ ⟨.equals, place⟩ :: back ∧
        (∀ lexeme ∈ front, lexeme.value ≠ .equals) ∧ diagnostic = ⟨.extraEquals, place⟩ := by
  constructor
  · intro failed
    rcases noEquals_or_exists_first lexemes with noEquals | ⟨front, place, back, rfl, noEquals⟩
    · rw [alternativesOfLexemes_eq_ok_iff.2 ⟨noEquals, rfl⟩] at failed
      cases failed
    · rw [alternativesOfLexemes_append_equals noEquals] at failed
      cases failed
      exact ⟨front, place, back, rfl, noEquals, rfl⟩
  · rintro ⟨front, place, back, rfl, noEquals, rfl⟩
    exact alternativesOfLexemes_append_equals noEquals

/-! ## Rules -/

theorem Refused.of_ofLexemes (failed : Rule.ofLexemes lexemes span = .error diagnostic) :
    Refused span lexemes diagnostic := by
  unfold Rule.ofLexemes at failed
  split at failed
  · cases failed
    exact .blankRule
  · next name place rest =>
      split at failed
      · next reserved =>
          cases failed
          subst reserved
          exact .reservedName
      · next allowed =>
          split at failed
          · cases failed
            exact .noSecond allowed
          · next mark body =>
              cases found : alternativesOfLexemes body with
              | ok alternatives =>
                  rw [found] at failed
                  cases failed
              | error other =>
                  rw [found] at failed
                  cases failed
                  obtain ⟨front, extra, back, rfl, noEquals, rfl⟩ :=
                    alternativesOfLexemes_eq_error_iff.1 found
                  exact .extraEquals allowed noEquals
          · next second others notEquals =>
              cases failed
              refine .otherSecond allowed ?_
              intro mark
              exact notEquals second.span (by rw [← mark])
  · next first rest notName =>
      cases failed
      refine .notNonterminal ?_
      intro name same
      exact notName name first.span (by rw [← same])

/-- What is wrong with lexemes is what they are refused for. -/
theorem Refused.ofLexemes_eq (refused : Refused span lexemes diagnostic) :
    Rule.ofLexemes lexemes span = .error diagnostic := by
  cases refused with
  | blankRule => rfl
  | @notNonterminal first lexemes notName =>
      rcases first with ⟨token, place⟩
      cases token with
      | nonterminal name => exact absurd rfl (notName name)
      | equals => rfl
      | bar => rfl
      | terminal text => rfl
  | reservedName => simp [Rule.ofLexemes]
  | noSecond allowed => simp [Rule.ofLexemes, allowed]
  | @otherSecond name place second lexemes allowed notEquals =>
      rcases second with ⟨token, further⟩
      cases token with
      | equals => exact absurd rfl notEquals
      | bar => simp [Rule.ofLexemes, allowed]
      | nonterminal other => simp [Rule.ofLexemes, allowed]
      | terminal text => simp [Rule.ofLexemes, allowed]
  | extraEquals allowed noEquals =>
      simp [Rule.ofLexemes, allowed, alternativesOfLexemes_append_equals noEquals, bind,
        Except.bind]

/-- Lexemes are refused exactly for what is wrong with them. -/
theorem Rule.ofLexemes_eq_error_iff :
    Rule.ofLexemes lexemes span = .error diagnostic ↔ Refused span lexemes diagnostic :=
  ⟨.of_ofLexemes, Refused.ofLexemes_eq⟩

end Lookahead.Source
