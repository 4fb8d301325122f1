import Lookahead.Proofs.Source.Rules
import Lookahead.Proofs.Text.Places
import Mathlib.Data.List.Flatten

/-!
# Places of lexemes and symbols

A lexeme stands where its token is spelled, and the lexemes of a line stand one
after the other.  So do the name of a rule and the symbols in its alternatives.
-/

namespace Lookahead.Source

variable {start : Nat} {chars : List Char} {lexeme second : Lexeme} {lexemes run : List Lexeme}

/-- Spans that begin one after the other. -/
def Ascending (spans : List Span) : Prop :=
  spans.Pairwise fun span later => span.start < later.start

theorem Ascending.sublist {spans places : List Span} (ascending : Ascending places)
    (within : spans.Sublist places) : Ascending spans :=
  List.Pairwise.sublist within ascending

/-! ## Lexemes -/

/-- A token is spelled where its lexeme stands. -/
theorem Layout.marks (layout : Layout start chars lexemes) (member : lexeme ∈ lexemes) :
    lexeme.span.Marks start chars lexeme.value.spelling := by
  induction lexemes generalizing start chars with
  | nil => cases member
  | cons first lexemes ih =>
      obtain ⟨blanks, rest, rfl, _, begins, ends, _, _, later⟩ := layout.uncons
      cases member with
      | head => exact ⟨blanks, rest, rfl, begins, ends⟩
      | tail _ member =>
          have marks := ih later member
          rw [ends, begins, Nat.add_assoc, Token.width, ← Text.byteLength_append] at marks
          rw [← List.append_assoc]
          exact marks.append_left _

theorem Layout.start_lt_stop (layout : Layout start chars lexemes) (member : lexeme ∈ lexemes) :
    lexeme.span.start < lexeme.span.stop :=
  (layout.marks member).start_lt_stop (layout.spelled_of_mem member).1.spelling_ne_nil

/-- No two lexemes of a line overlap. -/
theorem Layout.disjoint (layout : Layout start chars lexemes) :
    (lexemes.map Located.span).Pairwise fun span later => span.stop ≤ later.start := by
  induction lexemes generalizing start chars with
  | nil => exact .nil
  | cons first lexemes ih =>
      obtain ⟨_, _, _, _, _, _, _, _, later⟩ := layout.uncons
      refine .cons ?_ (ih later)
      intro span member
      rcases List.mem_map.1 member with ⟨other, inLater, rfl⟩
      exact (later.marks inLater).bounds.1

/-- The lexemes of a line stand one after the other. -/
theorem Layout.ascending (layout : Layout start chars lexemes) :
    Ascending (lexemes.map Located.span) := by
  apply layout.disjoint.imp_of_mem
  intro span later member _ disjoint
  rcases List.mem_map.1 member with ⟨lexeme, inLexemes, rfl⟩
  exact Nat.lt_of_lt_of_le (layout.start_lt_stop inLexemes) disjoint

/-- From the first token to the second there are only blanks besides. -/
theorem Layout.marks_to_second (layout : Layout start chars (lexeme :: second :: lexemes)) :
    ∃ gap, (∀ char ∈ gap, Text.isBlank char = true) ∧
      (lexeme.span.to second.span).Marks start chars
        (lexeme.value.spelling ++ (gap ++ second.value.spelling)) := by
  obtain ⟨blanks, rest, rfl, _, begins, ends, _, _, later⟩ := layout.uncons
  obtain ⟨gap, after, rfl, only, begins', ends', _⟩ := later.uncons
  refine ⟨gap, only, blanks, after, by simp, begins, ?_⟩
  simp only [Span.to, Text.byteLength_append]
  rw [ends', begins', ends, Token.width, Token.width]
  omega

/-! ## Symbols -/

theorem symbolsOf_append (front back : List Lexeme) :
    symbolsOf (front ++ back) = symbolsOf front ++ symbolsOf back :=
  List.filterMap_append

/-- All runs between bars together have the symbols of the whole. -/
theorem flatten_symbolsOf_splitAtBars (lexemes : List Lexeme) :
    ((splitAtBars lexemes).map symbolsOf).flatten = symbolsOf lexemes := by
  induction lexemes with
  | nil => rfl
  | cons lexeme rest ih =>
      simp only [splitAtBars]
      split
      · next mark =>
          simpa [symbolsOf, mark, Token.symbol?] using ih
      · split
        · next none => exact absurd none (splitAtBars_ne_nil rest)
        · next run later found =>
            rw [found, List.map_cons, List.flatten_cons] at ih
            rw [List.map_cons, List.flatten_cons, ← List.singleton_append, symbolsOf_append,
              List.append_assoc, ih, ← symbolsOf_append, List.singleton_append]

/-- Values that are made in place stand where some of the items stand. -/
theorem map_span_filterMap_sublist {α β : Type} {image : Located α → Option (Located β)}
    (placed : ∀ item result, image item = some result → result.span = item.span)
    (items : List (Located α)) :
    ((items.filterMap image).map Located.span).Sublist (items.map Located.span) := by
  induction items with
  | nil => exact .slnil
  | cons item items ih =>
      cases made : image item with
      | none =>
          rw [List.filterMap_cons_none made]
          exact ih.cons _
      | some result =>
          rw [List.filterMap_cons_some made, List.map_cons, List.map_cons, placed item result made]
          exact ih.cons_cons _

/-- Symbols stand where their lexemes stand. -/
theorem map_span_symbolsOf_sublist (run : List Lexeme) :
    ((symbolsOf run).map Located.span).Sublist (run.map Located.span) := by
  apply map_span_filterMap_sublist
  intro lexeme symbol made
  obtain ⟨_, _, rfl⟩ := Option.map_eq_some_iff.1 made
  rfl

/-! ## Rules -/

/-- The places of the name of a rule and of the symbols in its alternatives. -/
def Rule.places (rule : Rule) : List Span :=
  rule.span :: rule.alternatives.flatten.map Located.span

variable {line : String} {offset : Nat} {rule : Rule}

/-- The places of a rule are places of lexemes of its line. -/
theorem Rule.exists_layout_of_ofLine (read : Rule.ofLine line offset = .ok rule) :
    ∃ lexemes, Layout offset line.toList lexemes ∧
      rule.places.Sublist (lexemes.map Located.span) := by
  rcases Rule.ofLine_eq_ok_iff.1 read with ⟨mark, body, layout, _, _, alternatives⟩
  refine ⟨_, layout, ?_⟩
  rw [Rule.places, alternatives, flatten_symbolsOf_splitAtBars, List.map_cons, List.map_cons]
  exact ((map_span_symbolsOf_sublist body).cons _).cons_cons _

end Lookahead.Source
