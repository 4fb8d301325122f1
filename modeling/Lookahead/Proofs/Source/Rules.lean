import Lookahead.Proofs.Source.Layout
import Lookahead.Source.Rule

/-!
# Rules read from lexemes

A right-hand side without equals signs is read as the runs of its lexemes between
bars, and each run as its symbols.  A rule is read exactly from a name, an equals
sign and such a right-hand side.
-/

namespace Lookahead.Source

/-- The symbol that a token of an alternative stands for.  The empty terminal
stands for nothing. -/
def Token.symbol? : Token → Option Symbol
  | .equals => none
  | .bar => none
  | .nonterminal name => some (.nonterminal name)
  | .terminal text => if text = epsilon then none else some (.terminal text)

/-- The token that a symbol is written as. -/
def tokenOf : Symbol → Token
  | .terminal text => .terminal text
  | .nonterminal name => .nonterminal name

/-- The symbols of a run of lexemes, with their places. -/
def symbolsOf (run : List Lexeme) : LocatedLine :=
  run.filterMap fun lexeme => lexeme.value.symbol?.map (⟨·, lexeme.span⟩)

variable {ε α β : Type}

theorem mapM_cons_eq_ok_iff {read : α → Except ε β} {item : α} {items : List α}
    {results : List β} :
    (item :: items).mapM read = .ok results ↔
      ∃ result others, read item = .ok result ∧ items.mapM read = .ok others ∧
        results = result :: others := by
  rw [List.mapM_cons]
  cases read item with
  | error fault => simp [bind, Except.bind]
  | ok result =>
      cases items.mapM read with
      | error fault => simp [bind, Except.bind]
      | ok others => simp [bind, Except.bind, pure, Except.pure, eq_comm]

/-- If an item is read exactly when it is acceptable, and then as its image, so are
all items of a list. -/
theorem mapM_eq_ok_iff {read : α → Except ε β} {accepts : α → Prop} {image : α → β}
    (spec : ∀ {item result}, read item = .ok result ↔ accepts item ∧ result = image item)
    {items : List α} {results : List β} :
    items.mapM read = .ok results ↔ (∀ item ∈ items, accepts item) ∧ results = items.map image := by
  induction items generalizing results with
  | nil => simp [pure, Except.pure, eq_comm]
  | cons item items ih =>
      simp only [mapM_cons_eq_ok_iff, spec, ih, List.mem_cons, forall_eq_or_imp, List.map_cons]
      constructor
      · intro read
        rcases read with ⟨_, _, ⟨accepted, rfl⟩, ⟨every, rfl⟩, rfl⟩
        exact ⟨⟨accepted, every⟩, rfl⟩
      · intro read
        rcases read with ⟨⟨accepted, every⟩, rfl⟩
        exact ⟨_, _, ⟨accepted, rfl⟩, ⟨every, rfl⟩, rfl⟩

variable {lexeme bar : Lexeme} {lexemes run front back : List Lexeme} {alternative : LocatedLine}
variable {alternatives : List LocatedLine}

/-! ## Alternatives -/

theorem alternativeOfLexemes_cons_empty (empty : lexeme.value = .terminal epsilon) :
    alternativeOfLexemes (lexeme :: run) = alternativeOfLexemes run := by
  simp [alternativeOfLexemes, empty]

theorem alternativeOfLexemes_cons_eq_ok_iff (solid : lexeme.value ≠ .terminal epsilon) :
    alternativeOfLexemes (lexeme :: run) = .ok alternative ↔
      ∃ symbol others, symbolOfLexeme lexeme = .ok symbol ∧
        alternativeOfLexemes run = .ok others ∧ alternative = symbol :: others := by
  simp only [alternativeOfLexemes]
  rw [List.filter_cons_of_pos (by simpa using solid), mapM_cons_eq_ok_iff]

theorem symbolOfLexeme_eq_ok_iff {symbol : Located Symbol}
    (solid : lexeme.value ≠ .terminal epsilon) :
    symbolOfLexeme lexeme = .ok symbol ↔
      lexeme.value.symbol?.map (⟨·, lexeme.span⟩) = some symbol := by
  obtain ⟨token, span⟩ := lexeme
  cases token with
  | equals => simp [symbolOfLexeme, Token.symbol?]
  | bar => simp [symbolOfLexeme, Token.symbol?]
  | nonterminal name => simp [symbolOfLexeme, Token.symbol?]
  | terminal text =>
      have visible : text ≠ epsilon := fun same => solid (congrArg Token.terminal same)
      simp [symbolOfLexeme, Token.symbol?, visible]

theorem symbol?_eq_some_nonterminal {token : Token} {name : String}
    (shown : token.symbol? = some (.nonterminal name)) : token = .nonterminal name := by
  cases token with
  | equals => cases shown
  | bar => cases shown
  | nonterminal other =>
      cases shown
      rfl
  | terminal text =>
      simp only [Token.symbol?] at shown
      split at shown <;> cases shown

theorem symbol?_eq_none_iff {token : Token} :
    token.symbol? = none ↔ token = .equals ∨ token = .bar ∨ token = .terminal epsilon := by
  cases token <;> simp [Token.symbol?]

theorem symbolsOf_cons_of_some {symbol : Symbol} (shown : lexeme.value.symbol? = some symbol) :
    symbolsOf (lexeme :: run) = ⟨symbol, lexeme.span⟩ :: symbolsOf run :=
  List.filterMap_cons_some (by rw [shown]; rfl)

theorem symbolsOf_cons_of_none (silent : lexeme.value.symbol? = none) :
    symbolsOf (lexeme :: run) = symbolsOf run :=
  List.filterMap_cons_none (by rw [silent]; rfl)

/-- A symbol stands where a lexeme stands for it. -/
theorem mem_symbolsOf {symbol : Located Symbol} (member : symbol ∈ symbolsOf run) :
    ∃ lexeme ∈ run, lexeme.value.symbol? = some symbol.value ∧ lexeme.span = symbol.span := by
  rcases List.mem_filterMap.1 member with ⟨lexeme, inRun, shown⟩
  rcases Option.map_eq_some_iff.1 shown with ⟨value, found, rfl⟩
  exact ⟨lexeme, inRun, found, rfl⟩

/-- A run is read as its symbols if it holds no equals sign and no bar. -/
theorem alternativeOfLexemes_eq_ok_iff :
    alternativeOfLexemes run = .ok alternative ↔
      (∀ lexeme ∈ run, lexeme.value ≠ .equals ∧ lexeme.value ≠ .bar) ∧
        alternative = symbolsOf run := by
  induction run generalizing alternative with
  | nil => simp [alternativeOfLexemes, symbolsOf, pure, Except.pure, eq_comm]
  | cons lexeme run ih =>
      rw [List.forall_mem_cons]
      by_cases empty : lexeme.value = .terminal epsilon
      · simp [alternativeOfLexemes_cons_empty empty, ih, symbolsOf, empty, Token.symbol?]
      · simp only [alternativeOfLexemes_cons_eq_ok_iff empty, symbolOfLexeme_eq_ok_iff empty, ih,
          symbolsOf]
        cases shown : lexeme.value.symbol? with
        | none =>
            have mark := symbol?_eq_none_iff.1 shown
            simp only [empty, or_false] at mark
            rcases mark with mark | mark <;> simp [mark]
        | some symbol =>
            have solid : lexeme.value ≠ .equals ∧ lexeme.value ≠ .bar := by
              constructor <;> intro mark <;> simp [mark, Token.symbol?] at shown
            rw [List.filterMap_cons_some (by rw [shown]; rfl)]
            constructor
            · intro read
              rcases read with ⟨_, _, same, ⟨every, rfl⟩, rfl⟩
              cases same
              exact ⟨⟨solid, every⟩, rfl⟩
            · intro read
              exact ⟨_, _, rfl, ⟨read.1.2, rfl⟩, read.2⟩

/-! ## Right-hand sides -/

theorem splitAtBars_ne_nil (lexemes : List Lexeme) : splitAtBars lexemes ≠ [] := by
  cases lexemes with
  | nil => simp [splitAtBars]
  | cons lexeme rest =>
      simp only [splitAtBars]
      split
      · simp
      · split <;> simp

/-- A lexeme that is no bar goes with the run behind it. -/
theorem exists_splitAtBars_cons (noBar : lexeme.value ≠ .bar) (rest : List Lexeme) :
    ∃ run later, splitAtBars rest = run :: later ∧
      splitAtBars (lexeme :: rest) = (lexeme :: run) :: later := by
  cases runs : splitAtBars rest with
  | nil => exact absurd runs (splitAtBars_ne_nil rest)
  | cons run later =>
      refine ⟨run, later, rfl, ?_⟩
      rw [splitAtBars, if_neg noBar, runs]

/-- The runs between bars hold everything but the bars. -/
theorem flatten_splitAtBars (lexemes : List Lexeme) :
    (splitAtBars lexemes).flatten = lexemes.filter (·.value ≠ .bar) := by
  induction lexemes with
  | nil => rfl
  | cons lexeme rest ih =>
      simp only [splitAtBars]
      split
      · next bar => simp [bar, ih]
      · next solid =>
          split
          · next none => exact absurd none (splitAtBars_ne_nil rest)
          · next run later found =>
              rw [found] at ih
              rw [List.filter_cons_of_pos (by simpa using solid), ← ih]
              rfl

theorem splitAtBars_of_no_bar (solid : ∀ lexeme ∈ run, lexeme.value ≠ .bar) :
    splitAtBars run = [run] := by
  induction run with
  | nil => rfl
  | cons lexeme rest ih =>
      rw [List.forall_mem_cons] at solid
      simp [splitAtBars, solid.1, ih solid.2]

theorem splitAtBars_append_bar (solid : ∀ lexeme ∈ front, lexeme.value ≠ .bar)
    (mark : bar.value = .bar) : splitAtBars (front ++ bar :: back) = front :: splitAtBars back := by
  induction front with
  | nil => simp [splitAtBars, mark]
  | cons lexeme rest ih =>
      rw [List.forall_mem_cons] at solid
      simp [splitAtBars, solid.1, ih solid.2]

theorem mem_of_mem_splitAtBars (listed : run ∈ splitAtBars lexemes) (member : lexeme ∈ run) :
    lexeme ∈ lexemes ∧ lexeme.value ≠ .bar := by
  have inRuns : lexeme ∈ (splitAtBars lexemes).flatten := List.mem_flatten.2 ⟨run, listed, member⟩
  rw [flatten_splitAtBars, List.mem_filter] at inRuns
  simpa using inRuns

/-- A right-hand side is read as the symbols of its runs if it holds no equals
sign. -/
theorem alternativesOfLexemes_eq_ok_iff :
    alternativesOfLexemes lexemes = .ok alternatives ↔
      (∀ lexeme ∈ lexemes, lexeme.value ≠ .equals) ∧
        alternatives = (splitAtBars lexemes).map symbolsOf := by
  rw [alternativesOfLexemes, mapM_eq_ok_iff alternativeOfLexemes_eq_ok_iff]
  apply and_congr_left
  intro _
  constructor
  · intro every lexeme member mark
    have solid : lexeme.value ≠ .bar := by simp [mark]
    have inRuns : lexeme ∈ (splitAtBars lexemes).flatten := by
      rw [flatten_splitAtBars, List.mem_filter]
      exact ⟨member, by simpa using solid⟩
    rcases List.mem_flatten.1 inRuns with ⟨run, listed, inRun⟩
    exact (every run listed lexeme inRun).1 mark
  · intro every run listed lexeme inRun
    have member := mem_of_mem_splitAtBars listed inRun
    exact ⟨every lexeme member.1, member.2⟩

/-! ## Rules -/

/-- A rule is read from its name, an equals sign and a right-hand side. -/
theorem Rule.ofLexemes_eq_ok_iff {span : Span} {rule : Rule} :
    Rule.ofLexemes lexemes span = .ok rule ↔
      ∃ mark body, lexemes = ⟨.nonterminal rule.name, rule.span⟩ :: ⟨.equals, mark⟩ :: body ∧
        rule.name ≠ emptyLineName ∧ (∀ lexeme ∈ body, lexeme.value ≠ .equals) ∧
        rule.alternatives = (splitAtBars body).map symbolsOf := by
  obtain ⟨name, alternatives, place⟩ := rule
  constructor
  · intro read
    unfold Rule.ofLexemes at read
    split at read
    · cases read
    · next other found rest =>
        split at read
        · cases read
        · next allowed =>
            split at read
            · cases read
            · next mark body =>
                cases body' : alternativesOfLexemes body with
                | error fault =>
                    rw [body'] at read
                    cases read
                | ok lines =>
                    rw [body'] at read
                    cases read
                    rcases alternativesOfLexemes_eq_ok_iff.1 body' with ⟨solid, lines⟩
                    exact ⟨mark, body, rfl, allowed, solid, lines⟩
            · cases read
    · cases read
  · intro shape
    rcases shape with ⟨mark, body, rfl, allowed, solid, lines⟩
    have read := alternativesOfLexemes_eq_ok_iff.2 ⟨solid, lines⟩
    simp [Rule.ofLexemes, allowed, read, bind, Except.bind, pure, Except.pure]

theorem Rule.ofLine_of_lex {line : String} {offset : Nat} (found : lex line offset = .ok lexemes) :
    Rule.ofLine line offset =
      Rule.ofLexemes lexemes ⟨offset, offset + Text.byteLength line.toList⟩ := by
  rw [Rule.ofLine, found]
  rfl

/-- A rule line is a layout of its name, an equals sign and a right-hand side. -/
theorem Rule.ofLine_eq_ok_iff {line : String} {offset : Nat} {rule : Rule} :
    Rule.ofLine line offset = .ok rule ↔
      ∃ mark body,
        Layout offset line.toList
          (⟨.nonterminal rule.name, rule.span⟩ :: ⟨.equals, mark⟩ :: body) ∧
        rule.name ≠ emptyLineName ∧ (∀ lexeme ∈ body, lexeme.value ≠ .equals) ∧
        rule.alternatives = (splitAtBars body).map symbolsOf := by
  constructor
  · intro read
    cases found : lex line offset with
    | error fault =>
        rw [Rule.ofLine, found] at read
        cases read
    | ok lexemes =>
        rw [Rule.ofLine_of_lex found, Rule.ofLexemes_eq_ok_iff] at read
        rcases read with ⟨mark, body, rfl, shape⟩
        exact ⟨mark, body, lexFrom_eq_ok_iff_layout.1 found, shape⟩
  · intro shape
    rcases shape with ⟨mark, body, layout, shape⟩
    rw [Rule.ofLine_of_lex (lexFrom_eq_ok_iff_layout.2 layout), Rule.ofLexemes_eq_ok_iff]
    exact ⟨mark, body, rfl, shape⟩

end Lookahead.Source
