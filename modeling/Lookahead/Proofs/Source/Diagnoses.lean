import Lookahead.Proofs.Source.Malformed
import Lookahead.Proofs.Source.Reading
import Lookahead.Proofs.Text.RuleLines

/-!
# All that is said about a text

A text that gives no grammar is refused with an exact list of diagnostics: one for
each malformed line, or else one for each rule with the name of an earlier rule and
one for each use of a name that no rule has.  Each list goes through the text from
the front to the back.
-/

namespace Lookahead.Source

variable {ε α : Type} {rules : List Rule} {text : String}

/-! ## Places -/

/-- The places that are known of a rule line once it has been read. -/
def placesRead : Except Diagnostic Rule → List Span
  | .ok rule => rule.places
  | .error diagnostic => [diagnostic.span]

/-- What is read of a rule line stands in the line, from its front to its back. -/
theorem placesRead_ofLine {line : String} {offset : Nat} (shown : Text.isRuleLine line = true) :
    Ascending (placesRead (Rule.ofLine line offset)) ∧
      ∀ span ∈ placesRead (Rule.ofLine line offset),
        offset ≤ span.start ∧ span.start < offset + Text.byteLength line.toList := by
  cases found : Rule.ofLine line offset with
  | error diagnostic =>
      obtain ⟨part, marks, inhabited⟩ := (Malformed.of_ofLine shown found).exists_marks
      have wide := marks.start_lt_stop inhabited
      have bounds := marks.bounds
      constructor
      · exact List.pairwise_singleton _ _
      · intro span member
        rw [placesRead, List.mem_singleton] at member
        subst member
        omega
  | ok rule =>
      obtain ⟨lexemes, layout, places⟩ := Rule.exists_layout_of_ofLine found
      constructor
      · exact layout.ascending.sublist places
      · intro span member
        obtain ⟨lexeme, listed, rfl⟩ := List.mem_map.1 (places.mem member)
        have wide := layout.start_lt_stop listed
        have bounds := (layout.marks listed).bounds
        omega

/-- All that is read of a text stands in it from its front to its back. -/
theorem ascending_placesRead (text : String) :
    Ascending ((readRules text).flatMap placesRead) := by
  have inLine {result : Except Diagnostic Rule} (read : result ∈ readRules text) :
      Ascending (placesRead result) := by
    obtain ⟨line, listed, rfl⟩ := List.mem_map.1 read
    exact (placesRead_ofLine (List.mem_filter.1 listed).2).1
  rw [Ascending, List.pairwise_flatMap]
  refine ⟨fun result read => inLine read, ?_⟩
  rw [readRules, List.pairwise_map]
  refine ((Text.pairwise_lines text).filter _).imp_of_mem ?_
  intro line later listed laterListed apart first inFirst second inSecond
  have before := (placesRead_ofLine (List.mem_filter.1 listed).2).2 first inFirst
  have after := (placesRead_ofLine (List.mem_filter.1 laterListed).2).2 second inSecond
  simp only [Text.SourceLine.span] at apart
  omega

theorem ascending_places (read : readRules text = rules.map .ok) :
    Ascending (rules.flatMap Rule.places) := by
  have places := ascending_placesRead text
  rw [read, List.flatMap_map] at places
  exact places

/-- The repetitions are said in the order of the text. -/
theorem ascending_repetitions (read : readRules text = rules.map .ok) :
    Ascending ((repetitions rules).map Located.span) := by
  apply (ascending_places read).sublist
  have names : (repetitions rules).map Located.span =
      (laterRules rules).flatMap fun rule => [rule.span] := by
    rw [repetitions, List.map_map, ← List.map_eq_flatMap]
    rfl
  rw [names]
  have inRules := (filter_zipIdx_sublist rules (isRepeated rules)).flatMap fun rule => [rule.span]
  refine inRules.trans (List.Sublist.flatMap_right rules ?_)
  intro rule _
  exact List.singleton_sublist.2 List.mem_cons_self

/-- The dangling uses are said in the order of the text. -/
theorem ascending_danglingUses (read : readRules text = rules.map .ok) :
    Ascending ((danglingUses rules).map Located.span) := by
  apply (ascending_places read).sublist
  have inFirst : ((danglingUses rules).map Located.span).Sublist
      ((firstRules rules).flatMap fun rule => rule.alternatives.flatten.map Located.span) := by
    rw [← List.map_flatMap]
    apply map_span_filterMap_sublist
    intro symbol diagnostic said
    obtain ⟨_, _, rfl⟩ := danglingUse?_eq_some said
    rfl
  -- The first rules are some of the rules, and the uses in a rule some of its places.
  have inRules := (filter_zipIdx_sublist rules (!isRepeated rules ·)).flatMap
    fun rule => rule.alternatives.flatten.map Located.span
  refine (inFirst.trans inRules).trans (List.Sublist.flatMap_right rules ?_)
  intro rule _
  exact List.sublist_cons_self _ _

/-! ## Texts -/

/-- The faults that are separated are those of the results that are no values. -/
theorem map_error_separate (results : List (Except ε α)) :
    (separate results).2.map .error = results.filter (!·.isOk) := by
  induction results with
  | nil => rfl
  | cons result results ih =>
      cases result with
      | ok value => exact ih
      | error fault => exact congrArg (.error fault :: ·) ih

theorem mem_separate_iff {results : List (Except ε α)} {fault : ε} :
    fault ∈ (separate results).2 ↔ .error fault ∈ results := by
  have same := congrArg (.error fault ∈ ·) (map_error_separate results)
  simpa [Except.isOk, Except.toBool] using same

/-- What is said about lines is said about a malformed rule line. -/
theorem exists_malformed_of_mem_separate {fault : Diagnostic}
    (listed : fault ∈ (separate (readRules text)).2) :
    ∃ line ∈ Text.lines text, Malformed line.offset line.content.toList fault := by
  rw [mem_separate_iff] at listed
  obtain ⟨line, inText, failed⟩ := List.mem_map.1 listed
  rw [List.mem_filter] at inText
  exact ⟨line, inText.1, .of_ofLine inText.2 failed⟩

theorem ascending_separate (text : String) :
    Ascending ((separate (readRules text)).2.map Located.span) := by
  apply (ascending_placesRead text).sublist
  have places (faults : List Diagnostic) :
      faults.map Located.span = (faults.map .error).flatMap placesRead := by
    rw [List.flatMap_map]
    exact List.map_eq_flatMap
  rw [places, map_error_separate]
  exact List.filter_sublist.flatMap placesRead

/-- A text is refused for its lines, for its lack of rules, or for their names. -/
theorem diagnostics_of_parse {diagnostics : List Diagnostic}
    (refused : parse text = .error diagnostics) :
    diagnostics ≠ [] ∧ diagnostics = (separate (readRules text)).2 ∨
      diagnostics = [⟨.noRules, 0, 0⟩] ∨
      ∃ rules, readRules text = rules.map .ok ∧
        diagnostics ≠ [] ∧ diagnostics = repetitions rules ++ danglingUses rules := by
  by_cases silent : (separate (readRules text)).2 = []
  · have read := readRules_of_no_faults silent
    rw [parse_of_readRules read] at refused
    by_cases inhabited : (separate (readRules text)).1 = []
    · rw [inhabited] at refused
      cases refused
      exact .inr (.inl rfl)
    · exact .inr (.inr ⟨_, read, (grammarOfRules_eq_error_iff inhabited).1 refused⟩)
  · rw [parse_of_faults silent] at refused
    cases refused
    exact .inl ⟨silent, rfl⟩

/-- A refused text is told why. -/
theorem diagnostics_ne_nil {diagnostics : List Diagnostic}
    (refused : parse text = .error diagnostics) : diagnostics ≠ [] := by
  rcases diagnostics_of_parse refused with
    ⟨inhabited, _⟩ | rfl | ⟨_, _, inhabited, _⟩
  · exact inhabited
  · exact List.cons_ne_nil _ _
  · exact inhabited

/-- A text gives a grammar exactly if all its rule lines are read, there is one, no
name is that of two rules, and every name that is used is that of a rule. -/
theorem exists_parse_iff :
    (∃ grammar, parse text = .ok grammar) ↔
      ∃ rules, rules ≠ [] ∧ readRules text = rules.map .ok ∧ (rules.map Rule.name).Nodup ∧
        ∀ rule ∈ rules, ∀ symbol ∈ rule.alternatives.flatten, ∀ name,
          symbol.value = .nonterminal name → name ∈ rules.map Rule.name := by
  constructor
  · rintro ⟨grammar, read⟩
    obtain ⟨rules, lines, made⟩ := parse_eq_ok_iff_rules.1 read
    have inhabited : rules ≠ [] := by
      rintro rfl
      cases made
    obtain ⟨distinct, closed⟩ := (exists_grammarOfRules_iff inhabited).1 ⟨grammar, made⟩
    exact ⟨rules, inhabited, lines, repetitions_eq_nil_iff.1 distinct,
      (danglingUses_eq_nil_iff distinct).1 closed⟩
  · rintro ⟨rules, inhabited, lines, distinct, closed⟩
    rw [← repetitions_eq_nil_iff] at distinct
    rw [parse_of_readRules lines, exists_grammarOfRules_iff inhabited]
    exact ⟨distinct, (danglingUses_eq_nil_iff distinct).2 closed⟩

/-- A text is refused with exactly these diagnostics.  If some rule line is
malformed, there is one for each such line and no other.  If there is no rule line,
this is all that is said.  Otherwise there is one for each rule whose name an
earlier rule has, and then one for each use of a name without a rule in the first
rule of a name.  Each list goes from the front of the text to its back.  A text
gives a grammar if nothing of this can be said.  Its rule lines are the lines that
have a character besides blanks, the first such character being no semicolon. -/
theorem parse_reports_exactly (text : String) :
    ((∃ result ∈ readRules text, result.isOk = false) →
      ∃ faults, parse text = .error faults ∧
        faults.map .error = (readRules text).filter (!·.isOk) ∧
        Ascending (faults.map Located.span) ∧
        ∀ fault ∈ faults, fault.value ≠ .noRules ∧
          ∀ name, fault.value ≠ .repeatedName name ∧ fault.value ≠ .undefinedName name) ∧
    (readRules text = [] → parse text = .error [⟨.noRules, 0, 0⟩]) ∧
    (∀ rules, rules ≠ [] → readRules text = rules.map .ok →
      (∀ diagnostics, parse text = .error diagnostics ↔
        diagnostics ≠ [] ∧ diagnostics = repetitions rules ++ danglingUses rules) ∧
      Ascending ((repetitions rules).map Located.span) ∧
      Ascending ((danglingUses rules).map Located.span)) ∧
    ((∃ grammar, parse text = .ok grammar) ↔
      ∃ rules, rules ≠ [] ∧ readRules text = rules.map .ok ∧ (rules.map Rule.name).Nodup ∧
        ∀ rule ∈ rules, ∀ symbol ∈ rule.alternatives.flatten, ∀ name,
          symbol.value = .nonterminal name → name ∈ rules.map Rule.name) ∧
    readRules text =
      (Text.ruleLines text).map (fun line => Rule.ofLine line.content line.offset) ∧
    (Text.ruleLines text).Sublist (Text.lines text) ∧
    ∀ line, line ∈ Text.ruleLines text ↔
      line ∈ Text.lines text ∧ Text.HoldsRule line.content.toList := by
  refine ⟨?_, ?_, ?_, exists_parse_iff, rfl, Text.ruleLines_sublist text,
    fun _ => Text.mem_ruleLines_iff⟩
  · rintro ⟨result, listed, failed⟩
    have some : (separate (readRules text)).2 ≠ [] := by
      cases result with
      | ok rule => cases failed
      | error fault => exact List.ne_nil_of_mem (mem_separate_iff.2 listed)
    refine ⟨_, parse_of_faults some, map_error_separate _, ascending_separate text, ?_⟩
    intro fault listed
    obtain ⟨_, _, malformed⟩ := exists_malformed_of_mem_separate listed
    exact malformed.fault_ne
  · intro none
    have read : readRules text = ([] : List Rule).map .ok := none
    rw [parse_of_readRules read]
    rfl
  · intro rules inhabited read
    refine ⟨?_, ascending_repetitions read, ascending_danglingUses read⟩
    intro diagnostics
    rw [parse_of_readRules read]
    exact grammarOfRules_eq_error_iff inhabited

/-- Three malformed lines, and a comment among them. -/
def brokenLines : String := "A = \"é\r\nB = A = B\n; x\n= C"

/-- A name with two rules, and names without one. -/
def confusedNames : String := "A = B C\nA = D\nE = C \"x\" C\n"

/-- Three texts that are refused for their lines, for their lack of rules and for
their names.  The later rule of a name is not searched for names. -/
theorem brokenLines_confusedNames_reported :
    parse brokenLines =
        .error [⟨.openQuote, 4, 7⟩, ⟨.extraEquals, 15, 16⟩, ⟨.notNonterminal, 23, 24⟩] ∧
      parse "; nothing\n\n" = .error [⟨.noRules, 0, 0⟩] ∧
      parse confusedNames =
        .error [⟨.repeatedName "A", 8, 9⟩, ⟨.undefinedName "B", 4, 5⟩,
          ⟨.undefinedName "C", 6, 7⟩, ⟨.undefinedName "C", 18, 19⟩,
          ⟨.undefinedName "C", 24, 25⟩] ∧
      ¬ Text.HoldsRule "; x".toList := by
  refine ⟨?lines, ?none, ?names, ?comment⟩
  case lines =>
    have malformed : ∃ result ∈ readRules brokenLines, result.isOk = false := by decide +kernel
    have listed : (readRules brokenLines).filter (!·.isOk) =
        [⟨.openQuote, 4, 7⟩, ⟨.extraEquals, 15, 16⟩, ⟨.notNonterminal, 23, 24⟩].map .error := by
      decide +kernel
    obtain ⟨faults, refused, every, _⟩ := (parse_reports_exactly brokenLines).1 malformed
    rw [refused, List.map_injective_iff.2 (fun _ _ => Except.error.inj) (every.trans listed)]
  case none => exact (parse_reports_exactly _).2.1 (by decide +kernel)
  case names =>
    have read : ∃ rules, rules ≠ [] ∧ readRules confusedNames = rules.map .ok ∧
        repetitions rules ++ danglingUses rules =
          [⟨.repeatedName "A", 8, 9⟩, ⟨.undefinedName "B", 4, 5⟩, ⟨.undefinedName "C", 6, 7⟩,
            ⟨.undefinedName "C", 18, 19⟩, ⟨.undefinedName "C", 24, 25⟩] :=
      ⟨(separate (readRules confusedNames)).1, by decide +kernel, by decide +kernel,
        by decide +kernel⟩
    obtain ⟨rules, inhabited, lines, said⟩ := read
    have reported := ((parse_reports_exactly confusedNames).2.2.1 rules inhabited lines).1
    exact (reported _).2 ⟨List.cons_ne_nil _ _, said.symm⟩
  case comment =>
    have inText : ⟨19, "; x"⟩ ∈ Text.lines brokenLines := by decide +kernel
    have skipped : ⟨19, "; x"⟩ ∉ Text.ruleLines brokenLines := by decide +kernel
    have ruleLines := (parse_reports_exactly brokenLines).2.2.2.2.2.2 ⟨19, "; x"⟩
    exact fun holds => skipped (ruleLines.2 ⟨inText, holds⟩)

end Lookahead.Source
