import Lookahead.Proofs.Text.Lines

/-!
# Lines that hold a rule

The first character of a line that is not a blank decides whether the line holds a rule:
there has to be one, and it must not begin a comment.  How the line ends does not matter.
-/

namespace Lookahead.Text

variable {line text : String} {blanks rest : List Char} {char : Char}

/-- Characters hold a rule: after blanks stands a character that neither is a blank nor
begins a comment. -/
def HoldsRule (chars : List Char) : Prop :=
  ∃ blanks char rest, chars = blanks ++ char :: rest ∧
    (∀ blank ∈ blanks, isBlank blank = true) ∧ isBlank char = false ∧ char ≠ ';'

/-- Characters are blanks, or the first one that is not a blank can be found. -/
theorem blank_or_exists_solid (chars : List Char) :
    (∀ char ∈ chars, isBlank char = true) ∨
      ∃ blanks char rest, chars = blanks ++ char :: rest ∧
        (∀ blank ∈ blanks, isBlank blank = true) ∧ isBlank char = false := by
  induction chars with
  | nil => exact .inl (List.forall_mem_nil _)
  | cons first chars ih =>
      cases kind : isBlank first with
      | false => exact .inr ⟨[], first, chars, rfl, List.forall_mem_nil _, kind⟩
      | true =>
          rcases ih with every | ⟨blanks, char, rest, rfl, every, solid⟩
          · exact .inl (List.forall_mem_cons.2 ⟨kind, every⟩)
          · refine .inr ⟨first :: blanks, char, rest, rfl, ?_, solid⟩
            exact List.forall_mem_cons.2 ⟨kind, every⟩

theorem isRuleLine_of_blank (blank : ∀ char ∈ line.toList, isBlank char = true) :
    isRuleLine line = false := by
  rw [isRuleLine, List.dropWhile_eq_nil_iff.2 blank]

/-- The first character that is not a blank decides. -/
theorem isRuleLine_eq (shape : line.toList = blanks ++ char :: rest)
    (every : ∀ blank ∈ blanks, isBlank blank = true) (solid : isBlank char = false) :
    isRuleLine line = (char != ';') := by
  rw [isRuleLine, shape, List.dropWhile_append_of_pos every,
    List.dropWhile_cons_of_neg (by simp [solid])]

/-- Lines are taken for rule lines if they hold a rule. -/
theorem isRuleLine_iff : isRuleLine line = true ↔ HoldsRule line.toList := by
  constructor
  · intro shown
    rcases blank_or_exists_solid line.toList with
      every | ⟨blanks, char, rest, shape, every, solid⟩
    · rw [isRuleLine_of_blank every] at shown
      cases shown
    · rw [isRuleLine_eq shape every solid, bne_iff_ne] at shown
      exact ⟨blanks, char, rest, shape, every, solid, shown⟩
  · rintro ⟨blanks, char, rest, shape, every, solid, noComment⟩
    rw [isRuleLine_eq shape every solid, bne_iff_ne]
    exact noComment

theorem content_ne_nil_of_isRuleLine (shown : isRuleLine line = true) : line.toList ≠ [] := by
  obtain ⟨blanks, char, rest, shape, _⟩ := isRuleLine_iff.1 shown
  simp [shape]

/-! ## Ends of lines -/

theorem isBlank_of_isLineEnd (ends : isLineEnd char = true) : isBlank char = true := by
  rw [isLineEnd, Bool.or_eq_true, beq_iff_eq, beq_iff_eq] at ends
  rcases ends with rfl | rfl <;> decide

/-- Whether a line holds a rule does not depend on its end. -/
theorem isRuleLine_content (chars : List Char) :
    isRuleLine (String.ofList (content chars)) = isRuleLine (String.ofList chars) := by
  obtain ⟨ending, shape, only⟩ := exists_ending chars
  rcases blank_or_exists_solid (content chars) with
    every | ⟨blanks, char, rest, inContent, every, solid⟩
  · have whole : ∀ char ∈ chars, isBlank char = true := by
      rw [shape, List.forall_mem_append]
      exact ⟨every, fun char member => isBlank_of_isLineEnd (only char member)⟩
    rw [← String.toList_ofList (l := content chars)] at every
    rw [← String.toList_ofList (l := chars)] at whole
    rw [isRuleLine_of_blank every, isRuleLine_of_blank whole]
  · have whole : chars = blanks ++ char :: (rest ++ ending) := by
      rw [shape, inContent, List.append_assoc, List.cons_append]
    rw [isRuleLine_eq (String.toList_ofList.trans inContent) every solid,
      isRuleLine_eq (String.toList_ofList.trans whole) every solid]

/-! ## Lines of a text -/

/-- The lines of a text that hold a rule. -/
def ruleLines (text : String) : List SourceLine :=
  (lines text).filter (isRuleLine ·.content)

/-- The rule lines are the lines that hold a rule. -/
theorem mem_ruleLines_iff {line : SourceLine} :
    line ∈ ruleLines text ↔ line ∈ lines text ∧ HoldsRule line.content.toList := by
  rw [ruleLines, List.mem_filter, isRuleLine_iff]

theorem ruleLines_sublist (text : String) : (ruleLines text).Sublist (lines text) :=
  List.filter_sublist

end Lookahead.Text
