import Lookahead.Proofs.Source.Refusals
import Lookahead.Proofs.Source.Relocation

/-!
# What a rule keeps of its lexemes

The bars of a right-hand side cut it into runs, and every run is one alternative.
Reading a run drops its empty terminals and keeps every other lexeme, in order and in
its place.  Empty terminals can therefore be put in and taken out at will.
-/

namespace Lookahead.Source

/-- The lexemes of a run that stand for something, in order. -/
def visible (run : List Lexeme) : List Lexeme :=
  run.filter (·.value ≠ .terminal epsilon)

/-- Runs of lexemes that the bars of a right-hand side cut it into.  No run can be made
longer, since a bar or an end stands on each side of it. -/
inductive CutAtBars : List Lexeme → List (List Lexeme) → Prop where
  /-- There is no bar, and all is one run. -/
  | last {run : List Lexeme} : (∀ lexeme ∈ run, lexeme.value ≠ .bar) → CutAtBars run [run]
  /-- A bar ends the first run, and the rest is cut behind it. -/
  | bar {run rest : List Lexeme} {place : Span} {runs : List (List Lexeme)} :
      (∀ lexeme ∈ run, lexeme.value ≠ .bar) → CutAtBars rest runs →
        CutAtBars (run ++ ⟨.bar, place⟩ :: rest) (run :: runs)

variable {lexeme : Lexeme} {lexemes run body others : List Lexeme} {runs : List (List Lexeme)}
variable {alternatives : List LocatedLine} {span place : Span}

/-! ## Runs between bars -/

theorem cutAtBars_splitAtBars (lexemes : List Lexeme) :
    CutAtBars lexemes (splitAtBars lexemes) := by
  induction lexemes with
  | nil => exact .last (by simp)
  | cons lexeme rest ih =>
      rcases lexeme with ⟨token, place⟩
      rw [splitAtBars]
      split
      · next bar =>
          obtain rfl : token = .bar := bar
          rw [← List.nil_append (_ :: rest)]
          exact .bar (by simp) ih
      · next noBar =>
          generalize splitAtBars rest = runs at ih
          cases ih with
          | last solid => exact .last (List.forall_mem_cons.2 ⟨noBar, solid⟩)
          | bar solid cut => exact .bar (List.forall_mem_cons.2 ⟨noBar, solid⟩) cut

/-- A right-hand side is cut in one way. -/
theorem cutAtBars_iff : CutAtBars lexemes runs ↔ runs = splitAtBars lexemes := by
  constructor
  · intro cut
    induction cut with
    | last solid => rw [splitAtBars_of_no_bar solid]
    | bar solid _ ih => rw [splitAtBars_append_bar solid rfl, ih]
  · rintro rfl
    exact cutAtBars_splitAtBars lexemes

/-- There is one run more than there are bars. -/
theorem CutAtBars.length_eq (cut : CutAtBars lexemes runs) :
    runs.length = lexemes.countP (·.value = .bar) + 1 := by
  have none {run : List Lexeme} (solid : ∀ lexeme ∈ run, lexeme.value ≠ .bar) :
      run.countP (·.value = .bar) = 0 := by
    simpa [List.countP_eq_zero] using solid
  induction cut with
  | last solid => simp [none solid]
  | bar solid _ ih => simp [none solid, ih]

/-! ## Lexemes that are kept -/

theorem tokenOf_injective : Function.Injective tokenOf := by
  intro symbol other same
  cases symbol <;> cases other <;> cases same <;> rfl

theorem map_tokenOf_injective : Function.Injective (Located.map tokenOf) := by
  rintro ⟨symbol, span⟩ ⟨other, place⟩ same
  obtain ⟨value, rfl⟩ : tokenOf symbol = tokenOf other ∧ span = place := by
    simpa [Located.map] using same
  rw [tokenOf_injective value]

theorem visible_cons_of_empty (empty : lexeme.value = .terminal epsilon) :
    visible (lexeme :: run) = visible run :=
  List.filter_cons_of_neg (by simpa using empty)

theorem visible_cons_of_solid (solid : lexeme.value ≠ .terminal epsilon) :
    visible (lexeme :: run) = lexeme :: visible run :=
  List.filter_cons_of_pos (by simpa using solid)

theorem tokenOf_of_symbol? {token : Token} {symbol : Symbol}
    (shown : token.symbol? = some symbol) :
    tokenOf symbol = token ∧ token ≠ .terminal epsilon := by
  cases token with
  | equals => cases shown
  | bar => cases shown
  | nonterminal name =>
      cases shown
      exact ⟨rfl, by simp⟩
  | terminal text =>
      simp only [Token.symbol?] at shown
      split at shown
      · cases shown
      · next solid =>
          cases shown
          exact ⟨rfl, by simpa using solid⟩

/-- The symbols of a run are its visible lexemes, each in its place. -/
theorem map_tokenOf_symbolsOf
    (symbols : ∀ lexeme ∈ run, lexeme.value ≠ .equals ∧ lexeme.value ≠ .bar) :
    (symbolsOf run).map (Located.map tokenOf) = visible run := by
  induction run with
  | nil => rfl
  | cons lexeme run ih =>
      rw [List.forall_mem_cons] at symbols
      have ih := ih symbols.2
      cases shown : lexeme.value.symbol? with
      | none =>
          have empty := symbol?_eq_none_iff.1 shown
          simp only [symbols.1, false_or] at empty
          rw [symbolsOf_cons_of_none shown, visible_cons_of_empty empty, ih]
      | some symbol =>
          obtain ⟨token, solid⟩ := tokenOf_of_symbol? shown
          rw [symbolsOf_cons_of_some shown, visible_cons_of_solid solid, List.map_cons, ih,
            Located.map, token]

/-- Lines are the symbols of runs exactly if they hold the visible lexemes of the runs. -/
theorem eq_map_symbolsOf_iff
    (symbols : ∀ run ∈ runs, ∀ lexeme ∈ run, lexeme.value ≠ .equals ∧ lexeme.value ≠ .bar) :
    alternatives = runs.map symbolsOf ↔
      alternatives.map (·.map (Located.map tokenOf)) = runs.map visible := by
  have injective : Function.Injective (List.map (List.map (Located.map tokenOf))) :=
    (map_tokenOf_injective.list_map).list_map
  have kept : (runs.map symbolsOf).map (·.map (Located.map tokenOf)) = runs.map visible := by
    rw [List.map_map]
    exact List.map_congr_left fun run listed => map_tokenOf_symbolsOf (symbols run listed)
  rw [← kept]
  exact injective.eq_iff.symm

/-! ## Empty terminals -/

theorem splitAtBars_visible (lexemes : List Lexeme) :
    splitAtBars (visible lexemes) = (splitAtBars lexemes).map visible := by
  induction lexemes with
  | nil => rfl
  | cons lexeme rest ih =>
      by_cases empty : lexeme.value = .terminal epsilon
      · have noBar : lexeme.value ≠ .bar := by simp [empty]
        obtain ⟨run, later, runs, cut⟩ := exists_splitAtBars_cons noBar rest
        rw [visible_cons_of_empty empty, ih, runs, cut, List.map_cons, List.map_cons,
          visible_cons_of_empty empty]
      · rw [visible_cons_of_solid empty]
        by_cases bar : lexeme.value = .bar
        · rw [splitAtBars, splitAtBars, if_pos bar, if_pos bar, ih, List.map_cons]
          rfl
        · obtain ⟨run, later, runs, cut⟩ := exists_splitAtBars_cons bar rest
          rw [splitAtBars, if_neg bar, ih, runs, cut, List.map_cons, List.map_cons,
            visible_cons_of_solid empty]

theorem alternativesOfLexemes_visible (lexemes : List Lexeme) :
    alternativesOfLexemes (visible lexemes) = alternativesOfLexemes lexemes := by
  have same (run : List Lexeme) :
      alternativeOfLexemes (visible run) = alternativeOfLexemes run := by
    simp only [alternativeOfLexemes, visible, List.filter_filter, Bool.and_self]
  rw [alternativesOfLexemes, alternativesOfLexemes, splitAtBars_visible, List.mapM_map]
  exact congrArg ((splitAtBars lexemes).mapM ·) (funext same)

/-- Without its empty terminals, a right-hand side is read the same. -/
theorem Rule.ofLexemes_visible (first second : Lexeme) :
    ofLexemes (first :: second :: visible body) span =
      ofLexemes (first :: second :: body) span := by
  rcases first with ⟨token, place⟩
  rcases second with ⟨mark, further⟩
  cases token with
  | nonterminal name =>
      cases mark with
      | equals => simp only [ofLexemes, alternativesOfLexemes_visible]
      | bar => rfl
      | nonterminal other => rfl
      | terminal text => rfl
  | equals => rfl
  | bar => rfl
  | terminal text => rfl

/-- What a right-hand side is read as, places apart, depends on the tokens that stand
for something only. -/
theorem Rule.entry_ofLexemes_eq (first second : Lexeme)
    (same : (visible body).map Located.value = (visible others).map Located.value) :
    (ofLexemes (first :: second :: body) span).toOption.map entry =
      (ofLexemes (first :: second :: others) place).toOption.map entry := by
  have alike (located : Lexeme) : located.Alike (fun _ _ => True) located :=
    ⟨rfl, trivial, trivial⟩
  have bodies : List.Forall₂ (Located.Alike fun _ _ => True) (visible body) (visible others) := by
    rw [← List.forall₂_eq_eq_eq, List.forall₂_map_left_iff, List.forall₂_map_right_iff] at same
    exact same.imp fun _ _ value => ⟨value, trivial, trivial⟩
  have places : span.Alike (fun _ _ => True) place := ⟨trivial, trivial⟩
  have outcomes := ofLexemes_alike places (.cons (alike first) (.cons (alike second) bodies))
  rw [ofLexemes_visible, ofLexemes_visible] at outcomes
  exact outcomes.toOption_map_eq fun _ _ related => related.entry_eq

/-! ## Rules -/

/-- Lexemes are read as a rule exactly if they are a name, an equals sign and a
right-hand side without equals signs.  The alternatives are the visible lexemes of its
runs, whose number is that of the bars and one. -/
theorem Rule.ofLexemes_eq_ok_iff_runs {rule : Rule} :
    ofLexemes lexemes span = .ok rule ↔
      ∃ mark body runs,
        lexemes = ⟨.nonterminal rule.name, rule.span⟩ :: ⟨.equals, mark⟩ :: body ∧
        rule.name ≠ emptyLineName ∧ (∀ lexeme ∈ body, lexeme.value ≠ .equals) ∧
        CutAtBars body runs ∧
        rule.alternatives.map (·.map (Located.map tokenOf)) = runs.map visible ∧
        rule.alternatives.length = body.countP (·.value = .bar) + 1 := by
  rw [ofLexemes_eq_ok_iff]
  have symbols {body : List Lexeme} (noEquals : ∀ lexeme ∈ body, lexeme.value ≠ .equals) :
      ∀ run ∈ splitAtBars body, ∀ lexeme ∈ run,
        lexeme.value ≠ .equals ∧ lexeme.value ≠ .bar := by
    intro run listed lexeme inRun
    obtain ⟨member, noBar⟩ := mem_of_mem_splitAtBars listed inRun
    exact ⟨noEquals lexeme member, noBar⟩
  constructor
  · rintro ⟨mark, body, rfl, allowed, noEquals, kept⟩
    have cut := cutAtBars_splitAtBars body
    refine ⟨mark, body, _, rfl, allowed, noEquals, cut, ?_, ?_⟩
    · exact (eq_map_symbolsOf_iff (symbols noEquals)).1 kept
    · rw [kept, List.length_map, cut.length_eq]
  · rintro ⟨mark, body, runs, rfl, allowed, noEquals, cut, kept, _⟩
    rw [cutAtBars_iff.1 cut] at kept
    exact ⟨mark, body, rfl, allowed, noEquals, (eq_map_symbolsOf_iff (symbols noEquals)).2 kept⟩

/-- Some rule is read exactly if the lexemes have the shape of one. -/
theorem Rule.exists_ofLexemes_eq_ok_iff :
    (∃ rule, ofLexemes lexemes span = .ok rule) ↔
      ∃ name place mark body, lexemes = ⟨.nonterminal name, place⟩ :: ⟨.equals, mark⟩ :: body ∧
        name ≠ emptyLineName ∧ ∀ lexeme ∈ body, lexeme.value ≠ .equals := by
  simp only [ofLexemes_eq_ok_iff]
  constructor
  · rintro ⟨rule, mark, body, shape, allowed, noEquals, _⟩
    exact ⟨rule.name, rule.span, mark, body, shape, allowed, noEquals⟩
  · rintro ⟨name, place, mark, body, shape, allowed, noEquals⟩
    exact ⟨⟨name, (splitAtBars body).map symbolsOf, place⟩, mark, body, shape, allowed, noEquals,
      rfl⟩

/-- A rule is read from lexemes without losing, inventing or reordering symbols, and
what is no rule is refused for its leftmost fault.  Empty terminals of the right-hand
side do not matter. -/
theorem Rule.ofLexemes_keeps_or_refuses (lexemes : List Lexeme) (span : Span) :
    ((∃ rule, ofLexemes lexemes span = .ok rule) ↔
      ∃ name place mark body, lexemes = ⟨.nonterminal name, place⟩ :: ⟨.equals, mark⟩ :: body ∧
        name ≠ emptyLineName ∧ ∀ lexeme ∈ body, lexeme.value ≠ .equals) ∧
    (∀ rule, ofLexemes lexemes span = .ok rule ↔
      ∃ mark body runs,
        lexemes = ⟨.nonterminal rule.name, rule.span⟩ :: ⟨.equals, mark⟩ :: body ∧
        rule.name ≠ emptyLineName ∧ (∀ lexeme ∈ body, lexeme.value ≠ .equals) ∧
        CutAtBars body runs ∧
        rule.alternatives.map (·.map (Located.map tokenOf)) = runs.map visible ∧
        rule.alternatives.length = body.countP (·.value = .bar) + 1) ∧
    (∀ diagnostic, ofLexemes lexemes span = .error diagnostic ↔
      Refused span lexemes diagnostic) ∧
    (∀ first second body others place, lexemes = first :: second :: body →
      (visible body).map Located.value = (visible others).map Located.value →
        (ofLexemes lexemes span).toOption.map entry =
          (ofLexemes (first :: second :: others) place).toOption.map entry) := by
  refine ⟨exists_ofLexemes_eq_ok_iff, fun _ => ofLexemes_eq_ok_iff_runs,
    fun _ => ofLexemes_eq_error_iff, ?_⟩
  rintro first second body others place rfl same
  exact entry_ofLexemes_eq first second same

/-- `A = B |` and `A = "" B | ""` are the same rule, in different places. -/
theorem Rule.emptyTerminals_ignored :
    let name : Lexeme := ⟨.nonterminal "A", ⟨0, 1⟩⟩
    let mark : Lexeme := ⟨.equals, ⟨2, 3⟩⟩
    let body : List Lexeme := [⟨.nonterminal "B", ⟨4, 5⟩⟩, ⟨.bar, ⟨6, 7⟩⟩]
    let others : List Lexeme :=
      [⟨.terminal "", ⟨4, 6⟩⟩, ⟨.nonterminal "B", ⟨7, 8⟩⟩, ⟨.bar, ⟨9, 10⟩⟩,
        ⟨.terminal "", ⟨11, 13⟩⟩]
    (ofLexemes (name :: mark :: body) ⟨0, 7⟩).toOption.map entry =
        (ofLexemes (name :: mark :: others) ⟨0, 13⟩).toOption.map entry ∧
      (ofLexemes (name :: mark :: others) ⟨0, 13⟩).toOption.map entry =
        some ("A", [[.nonterminal "B"], []]) :=
  ⟨(ofLexemes_keeps_or_refuses _ _).2.2.2 _ _ _ _ _ rfl (by decide), by decide⟩

end Lookahead.Source
