import Lookahead.Proofs.Source.Blame
import Lookahead.Proofs.Source.Relocation

/-!
# Line ends and lines without rules

Carriage returns before the line feeds of a text do not change what is read of it, nor
what is shown of its faults.  Neither does a comment or a blank line, but that the
faults after it are found further on.
-/

namespace Lookahead

/-- A located value once some bytes have been put into its text at one place: what ends
there or before stays, and the rest moves on. -/
def Located.pushed {α : Type} (place count : Nat) (located : Located α) : Located α :=
  if located.span.stop ≤ place then located
  else ⟨located.value, located.span.start + count, located.span.stop + count⟩

namespace Source

variable {text text' front back extra : String} {diagnostics : List Diagnostic}

/-! ## Carriage returns -/

/-- Two places have the same position, each in its text. -/
def SamePosition (text text' : String) (offset other : Nat) : Prop :=
  Text.Position.ofOffset text offset = Text.Position.ofOffset text' other

/-- Diagnostics in the same positions are shown alike. -/
theorem renderDiagnostics_alike {others : List Diagnostic}
    (every : List.Forall₂ (Located.Alike (SamePosition text text')) diagnostics others) :
    renderDiagnostics text diagnostics = renderDiagnostics text' others := by
  have shown : (diagnostics.map (Located.map Fault.message)).map (renderMessage text) =
      (others.map (Located.map Fault.message)).map (renderMessage text') := by
    induction every with
    | nil => rfl
    | @cons diagnostic other _ _ alike _ ih =>
        have same : renderMessage text (diagnostic.map Fault.message) =
            renderMessage text' (other.map Fault.message) := by
          simp only [renderMessage, Located.map]
          rw [alike.value, alike.span.start, alike.span.stop]
        rw [List.map_cons, List.map_cons, List.map_cons, List.map_cons, same, ih]
  rw [renderDiagnostics, renderDiagnostics, renderMessages, renderMessages, shown]

theorem ruleLines_withReturns (text : String) :
    List.Forall₂ (LineAlike (SamePosition text (Text.withReturns text))) (Text.ruleLines text)
      (Text.ruleLines (Text.withReturns text)) := by
  have pairs := (Text.forall₂_lines_withReturns text).imp fun line other same =>
    (⟨same.1, same.2⟩ : LineAlike (SamePosition text (Text.withReturns text)) line other)
  refine List.rel_filter ?_ pairs
  intro line other alike
  simp only [alike.content]

/-- A text with carriage returns is read alike, and its faults have the same
positions. -/
theorem parse_withReturns (text : String) :
    Outcomes (List.Forall₂ (Located.Alike (SamePosition text (Text.withReturns text)))) Eq
      (parse text) (parse (Text.withReturns text)) := by
  have lines := ruleLines_withReturns text
  by_cases inhabited : Text.ruleLines text = []
  · have inhabited' : Text.ruleLines (Text.withReturns text) = [] := by
      rw [inhabited] at lines
      exact List.forall₂_nil_left_iff.1 lines
    have origin : SamePosition text (Text.withReturns text) 0 0 := by
      rw [SamePosition, Text.Position.ofOffset_zero, Text.Position.ofOffset_zero]
    rw [parse_of_no_ruleLines inhabited, parse_of_no_ruleLines inhabited']
    exact .error (.cons ⟨rfl, origin, origin⟩ .nil)
  · exact parse_alike inhabited lines

/-! ## Lines without rules -/

/-- A place once some bytes have been put into the text at another one. -/
def Pushes (place count offset other : Nat) : Prop :=
  offset < place ∧ other = offset ∨ place ≤ offset ∧ other = offset + count

/-- What lies on one side of the place is pushed as its ends are. -/
theorem pushed_eq_of_alike {α : Type} {place count : Nat} {located other : Located α}
    (alike : located.Alike (Pushes place count) other)
    (wide : located.span.start < located.span.stop)
    (apart : located.span.stop < place ∨ place ≤ located.span.start) :
    located.pushed place count = other := by
  rcases located with ⟨value, start, stop⟩
  rcases other with ⟨_, start', stop'⟩
  obtain ⟨rfl, begins, ends⟩ := alike
  simp only [Pushes] at wide apart begins ends
  rcases apart with before | behind
  · have begins : start' = start := by omega
    have ends : stop' = stop := by omega
    rw [Located.pushed, if_pos (Nat.le_of_lt before), begins, ends]
  · have begins : start' = start + count := by omega
    have ends : stop' = stop + count := by omega
    rw [Located.pushed, if_neg (Nat.not_le.2 (Nat.lt_of_le_of_lt behind wide)), begins, ends]

/-- A diagnostic lies on one side of the end of a line, unless it says that there are no
rules. -/
theorem apart_of_parse (ends : front = "" ∨ front.toList.getLast? = some '\n')
    (refused : parse (front ++ back) = .error diagnostics) {diagnostic : Diagnostic}
    (listed : diagnostic ∈ diagnostics) :
    diagnostic = ⟨.noRules, 0, 0⟩ ∨ diagnostic.span.start < diagnostic.span.stop ∧
      (diagnostic.span.stop < front.utf8ByteSize ∨
        front.utf8ByteSize ≤ diagnostic.span.start) := by
  rcases isAboutLine_of_parse refused listed with ⟨_, line, inText, part, marks, some, _⟩ | none
  · right
    have wide := marks.start_lt_stop some
    have bounds := marks.bounds
    rw [Text.lines_append ends, List.mem_append] at inText
    rcases inText with inFront | inBack
    · have inhabited : line.content.toList ≠ [] := by
        intro empty
        exact some (List.sublist_nil.1 (empty ▸ marks.sublist))
      have before := Text.stop_lt_of_mem_lines ends inFront inhabited
      simp only [Text.SourceLine.span] at before
      omega
    · have after := Text.le_offset_of_mem_linesFrom inBack
      omega
  · exact .inl none

/-- The rule lines around an inserted line without a rule. -/
theorem ruleLines_pushed (ends : front = "" ∨ front.toList.getLast? = some '\n')
    (noFeed : '\n' ∉ extra.toList) (bare : Text.isRuleLine extra = false) (back : String) :
    List.Forall₂ (LineAlike (Pushes front.utf8ByteSize (extra.utf8ByteSize + 1)))
      (Text.ruleLines (front ++ back)) (Text.ruleLines (front ++ extra ++ "\n" ++ back)) := by
  obtain ⟨after, whole, edited, further⟩ := Text.ruleLines_insert ends noFeed bare back
  rw [whole, edited]
  apply List.rel_append
  · rw [List.forall₂_same]
    intro line listed
    obtain ⟨inFront, shown⟩ := List.mem_filter.1 listed
    have before := Text.stop_lt_of_mem_lines ends inFront
      (Text.content_ne_nil_of_isRuleLine shown)
    refine ⟨rfl, ?_⟩
    intro bytes within
    simp only [Text.SourceLine.span] at before
    exact .inl ⟨by omega, rfl⟩
  · rw [List.forall₂_map_right_iff, List.forall₂_same]
    intro line listed
    have behind := further line listed
    refine ⟨rfl, ?_⟩
    intro bytes within
    exact .inr ⟨by omega, Nat.add_right_comm _ _ _⟩

/-- Diagnostics that are pushed one by one are pushed all together. -/
theorem map_pushed_eq {count : Nat} {others : List Diagnostic}
    (ends : front = "" ∨ front.toList.getLast? = some '\n')
    (refused : parse (front ++ back) = .error diagnostics)
    (refused' : parse text' = .error others)
    (every : List.Forall₂ (Located.Alike (Pushes front.utf8ByteSize count)) diagnostics others) :
    diagnostics.map (Located.pushed front.utf8ByteSize count) = others := by
  rw [← List.forall₂_eq_eq_eq, List.forall₂_map_left_iff, List.forall₂_iff_zip]
  refine ⟨every.length_eq, ?_⟩
  intro diagnostic other paired
  obtain ⟨listed, listed'⟩ := List.of_mem_zip paired
  have alike := List.forall₂_zip every paired
  rcases apart_of_parse ends refused listed with rfl | ⟨wide, apart⟩
  · -- That there are no rules is said at the beginning of either text.
    rcases isAboutLine_of_parse refused' listed' with about | rfl
    · exact absurd alike.value.symm about.1
    · rfl
  · exact pushed_eq_of_alike alike wide apart

/-- A line without a rule that is put between the lines of a text moves the faults after
it, and does nothing else. -/
theorem parse_insert (ends : front = "" ∨ front.toList.getLast? = some '\n')
    (noFeed : '\n' ∉ extra.toList) (bare : Text.isRuleLine extra = false) (back : String) :
    parse (front ++ extra ++ "\n" ++ back) =
      (parse (front ++ back)).mapError
        (List.map (Located.pushed front.utf8ByteSize (extra.utf8ByteSize + 1))) := by
  have lines := ruleLines_pushed ends noFeed bare back
  by_cases inhabited : Text.ruleLines (front ++ back) = []
  · have inhabited' : Text.ruleLines (front ++ extra ++ "\n" ++ back) = [] := by
      rw [inhabited] at lines
      exact List.forall₂_nil_left_iff.1 lines
    rw [parse_of_no_ruleLines inhabited, parse_of_no_ruleLines inhabited']
    rfl
  · have outcomes := parse_alike inhabited lines
    cases refused : parse (front ++ back) with
    | ok grammar =>
        rw [refused] at outcomes
        generalize parse (front ++ extra ++ "\n" ++ back) = edited at outcomes
        cases outcomes with
        | ok same => rw [same, Except.mapError]
    | error diagnostics =>
        rw [refused] at outcomes
        cases refused' : parse (front ++ extra ++ "\n" ++ back) with
        | ok grammar =>
            rw [refused'] at outcomes
            cases outcomes
        | error others =>
            rw [refused'] at outcomes
            cases outcomes with
            | error every => rw [Except.mapError, map_pushed_eq ends refused refused' every]

/-- Layout does not matter.  With a carriage return before every line feed, a text gives
the same grammar, or faults of the same kinds in the same order that are shown alike.
With a comment or a blank line between its lines it gives the same grammar, or the same
faults, of which those after the new line are found as many bytes further on as it takes
up. -/
theorem parse_ignores_layout (text : String) :
    ((∀ grammar, parse (Text.withReturns text) = .ok grammar ↔ parse text = .ok grammar) ∧
      ∀ diagnostics, parse text = .error diagnostics →
        ∃ others, parse (Text.withReturns text) = .error others ∧
          others.map Located.value = diagnostics.map Located.value ∧
          renderDiagnostics (Text.withReturns text) others =
            renderDiagnostics text diagnostics) ∧
    ∀ front back extra : String, text = front ++ back →
      (front = "" ∨ front.toList.getLast? = some '\n') → '\n' ∉ extra.toList →
      Text.isRuleLine extra = false →
      parse (front ++ extra ++ "\n" ++ back) =
          (parse text).mapError
            (List.map (Located.pushed front.utf8ByteSize (extra.utf8ByteSize + 1))) ∧
        ∀ diagnostics, parse text = .error diagnostics → ∀ diagnostic ∈ diagnostics,
          diagnostic = ⟨.noRules, 0, 0⟩ ∨ diagnostic.span.start < diagnostic.span.stop ∧
            (diagnostic.span.stop < front.utf8ByteSize ∨
              front.utf8ByteSize ≤ diagnostic.span.start) := by
  refine ⟨?_, ?_⟩
  · have outcomes := parse_withReturns text
    generalize parse text = read, parse (Text.withReturns text) = edited at outcomes
    cases outcomes with
    | ok same =>
        subst same
        refine ⟨fun _ => Iff.rfl, ?_⟩
        intro diagnostics refused
        cases refused
    | error every =>
        refine ⟨fun _ => by simp, ?_⟩
        intro diagnostics refused
        cases refused
        exact ⟨_, rfl, (map_value_eq_of_alike every).symm, (renderDiagnostics_alike every).symm⟩
  · rintro front back extra rfl ends noFeed bare
    refine ⟨parse_insert ends noFeed bare back, ?_⟩
    intro diagnostics refused diagnostic listed
    exact apart_of_parse ends refused listed

/-- With carriage returns before its three line feeds `brokenLines` has the same faults,
and with a comment after its first line all but the first fault are five bytes further
on. -/
theorem brokenLines_spaced :
    (∃ others, parse (Text.withReturns brokenLines) = .error others ∧
      renderDiagnostics (Text.withReturns brokenLines) others =
        "FATAL [1,5]-[1,7]: Unmatched quotes\n" ++
          "FATAL [2,7]-[2,8]: Unexpected `=` encountered\n" ++
          "FATAL [4,1]-[4,2]: Tried to define something other than a nonterminal") ∧
    Text.isRuleLine " ; \r" = false ∧
    parse ("A = \"é\r\n" ++ " ; \r" ++ "\n" ++ "B = A = B\n; x\n= C") =
      .error [⟨.openQuote, 4, 7⟩, ⟨.extraEquals, 20, 21⟩, ⟨.notNonterminal, 28, 29⟩] := by
  have refused : parse brokenLines =
      .error [⟨.openQuote, 4, 7⟩, ⟨.extraEquals, 15, 16⟩, ⟨.notNonterminal, 23, 24⟩] := by
    decide +kernel
  have bare : Text.isRuleLine " ; \r" = false := by decide +kernel
  have spaced := parse_ignores_layout brokenLines
  refine ⟨?returns, bare, ?comment⟩
  case returns =>
    obtain ⟨others, read, _, shown⟩ := spaced.1.2 _ refused
    refine ⟨others, read, shown.trans ?_⟩
    decide +kernel
  case comment =>
    have inserted := (spaced.2 "A = \"é\r\n" "B = A = B\n; x\n= C" " ; \r" (by decide +kernel)
      (.inr (by decide +kernel)) (by decide +kernel) bare).1
    rw [inserted, refused]
    decide +kernel

end Source

end Lookahead
