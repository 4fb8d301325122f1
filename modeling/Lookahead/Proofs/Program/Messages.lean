import Lookahead.Program.Run
import Lookahead.Proofs.Source.Blame
import Lookahead.Proofs.Text.Numbering
import Lookahead.Proofs.Text.Positions
import Lookahead.Proofs.Text.Words

/-!
# Messages about refused texts

A text that gives no grammar is answered with one line for each diagnostic.  Both
positions on such a line carry the number of the rule line that is at fault, counted
from one, and the first one is further to the left.
-/

namespace Lookahead

variable {text : String}

/-- The digits of a position hold no line feed. -/
theorem Text.Position.not_mem_lineFeed_render (position : Position) :
    '\n' ∉ position.render.toList := by
  have digits (number : Nat) : '\n' ∉ Nat.toDigits 10 number := by
    intro member
    exact absurd (Nat.isDigit_of_mem_toDigits (by decide) (by decide) member) (by decide)
  simp [render, Nat.toString_eq_repr, Nat.toList_repr, digits]

namespace Source

variable {diagnostic : Diagnostic} {diagnostics : List Diagnostic}

/-! ## Lines of a message -/

/-- The lines of a message, which line feeds stand between. -/
def messageLines (message : String) : List String :=
  (message.toList.splitOn '\n').map String.ofList

/-- How a diagnostic of a text is shown.  A rule line is at fault, and its number is that of
both positions. -/
inductive ShownAs (text : String) (diagnostic : Diagnostic) : String → Prop where
  | noRules :
      diagnostic = ⟨.noRules, 0, 0⟩ →
        ShownAs text diagnostic "FATAL [1,1]-[1,1]: The grammar has no rules"
  | onLine {index first last : Nat} {line : Text.SourceLine} :
      (Text.lines text)[index]? = some line → Text.isRuleLine line.content = true →
        AtFault line diagnostic → first < last →
          ShownAs text diagnostic
            ("FATAL " ++ (Text.Position.mk (index + 1) first).render ++ "-" ++
              (Text.Position.mk (index + 1) last).render ++ ": " ++ diagnostic.value.message)

/-- What is said about a fault is on one line if the name in it is. -/
theorem Fault.not_mem_lineFeed_message {fault : Fault}
    (single : ∀ name, fault = .undefinedName name ∨ fault = .repeatedName name ∨
      fault = .reservedName name → '\n' ∉ name.toList) : '\n' ∉ fault.message.toList := by
  have around {before name after : String} (front : '\n' ∉ before.toList)
      (inside : '\n' ∉ name.toList) (back : '\n' ∉ after.toList) :
      '\n' ∉ (before ++ name ++ after).toList := by
    simp only [String.toList_append, List.mem_append, not_or]
    exact ⟨⟨front, inside⟩, back⟩
  cases fault with
  | undefinedName name => exact around (by decide) (single name (.inl rfl)) (by decide)
  | repeatedName name => exact around (by decide) (single name (.inr (.inl rfl))) (by decide)
  | reservedName name => exact around (by decide) (single name (.inr (.inr rfl))) (by decide)
  | missingEquals => decide
  | extraEquals => decide
  | notNonterminal => decide
  | openQuote => decide
  | noRules => decide
  | strayBar => decide
  | blankRule => decide

/-- A name that is said to be at fault is what stands under the span. -/
theorem Blames.part_eq {part : List Char} (blames : Blames text diagnostic part) {name : String}
    (named : diagnostic.value = .undefinedName name ∨ diagnostic.value = .repeatedName name ∨
      diagnostic.value = .reservedName name) : part = name.toList := by
  rcases diagnostic with ⟨fault, span⟩
  rcases named with rfl | rfl | rfl <;> exact blames

theorem not_mem_lineFeed_message (refused : parse text = .error diagnostics)
    (listed : diagnostic ∈ diagnostics) : '\n' ∉ diagnostic.value.message.toList := by
  apply Fault.not_mem_lineFeed_message
  intro name named
  rcases isAboutLine_of_parse refused listed with
    ⟨_, line, inText, part, marks, _, blames⟩ | rfl
  · intro feed
    rw [← blames.part_eq named] at feed
    exact Text.no_lineFeed_in_lines inText (marks.sublist.mem feed)
  · simp at named

theorem not_mem_lineFeed_renderMessage {message : Located String}
    (single : '\n' ∉ message.value.toList) : '\n' ∉ (renderMessage text message).toList := by
  have positions := Text.Position.not_mem_lineFeed_render
  simp only [renderMessage, String.toList_append, List.mem_append, not_or]
  exact ⟨⟨⟨⟨⟨by decide, positions _⟩, by decide⟩, positions _⟩, by decide⟩, single⟩

/-- A message has the lines of its diagnostics. -/
theorem messageLines_renderDiagnostics (refused : parse text = .error diagnostics) :
    messageLines (renderDiagnostics text diagnostics) =
      diagnostics.map fun diagnostic => renderMessage text (diagnostic.map Fault.message) := by
  have single : ∀ line ∈ (diagnostics.map (Located.map Fault.message)).map (renderMessage text),
      '\n' ∉ line.toList := by
    simp only [List.forall_mem_map]
    intro diagnostic listed
    exact not_mem_lineFeed_renderMessage (not_mem_lineFeed_message refused listed)
  have inhabited : (diagnostics.map (Located.map Fault.message)).map (renderMessage text) ≠ [] := by
    simpa using diagnostics_ne_nil refused
  rw [messageLines, renderDiagnostics, renderMessages,
    Text.splitOn_intercalate_newline single inhabited]
  simp [Function.comp_def]

/-! ## Diagnostics -/

/-- Every diagnostic of a text is shown with the number of the line at fault. -/
theorem shownAs_renderMessage (refused : parse text = .error diagnostics)
    (listed : diagnostic ∈ diagnostics) :
    ShownAs text diagnostic (renderMessage text (diagnostic.map Fault.message)) := by
  rcases exists_atFault_of_parse refused listed with ⟨line, inText, shown, atFault⟩ | rfl
  · obtain ⟨_, part, marks, inhabited, _⟩ :=
      atFault.exists_marks shown (Text.standsIn_of_mem_lines inText)
    obtain ⟨index, found⟩ := List.mem_iff_getElem?.1 inText
    obtain ⟨first, last, less, begins, ends⟩ := Text.ofOffset_of_marks found marks inhabited
    rw [renderMessage, Located.map, begins, ends]
    exact .onLine found shown atFault less
  · have shown : renderMessage text ⟨"The grammar has no rules", 0, 0⟩ =
        "FATAL [1,1]-[1,1]: The grammar has no rules" := by
      rw [renderMessage, Text.Position.ofOffset_zero]
      decide
    exact shown ▸ .noRules rfl

end Source

/-! ## Runs -/

namespace Program

open Source

theorem run_of_refused (options : Options) {diagnostics : List Diagnostic}
    (refused : parse text = .error diagnostics) :
    run options (.ok text) = .error (.malformed text diagnostics) := by
  have reported : reportText options text = .error (.malformed text diagnostics) := by
    rw [reportText, refused]
    rfl
  exact reported

/-- The lines that a text is read by are the lines that positions are counted in.  Each stands
where it is said to, and what is on none of them ends a line.  A place on a line has its
number, and a column that counts the characters before it.  So the message of a run on a
refused text has one line for each diagnostic, with the number of the rule line at
fault on both sides. -/
theorem lines_counted_alike (text : String) :
    (∀ index line, (Text.lines text)[index]? = some line →
      line.span.Marks 0 text.toList line.content.toList ∧
        '\n' ∉ line.content.toList ∧ line.content.toList.getLast? ≠ some '\r' ∧
        ∀ front back, line.content.toList = front ++ back →
          (Text.Resolver.ofText text).resolve? (line.offset + Text.byteLength front) =
            some ⟨index + 1, front.length + 1⟩) ∧
    (∀ front char back, text.toList = front ++ char :: back →
      char = '\n' ∨ char = '\r' ∨
        ∃ line ∈ Text.lines text, line.span.start ≤ Text.byteLength front ∧
          Text.byteLength front < line.span.stop) ∧
    (∀ options diagnostics, parse text = .error diagnostics →
      ∃ fault, run options (.ok text) = .error fault ∧
        (messageLines fault.message).length = diagnostics.length ∧
        List.Forall₂ (ShownAs text) diagnostics (messageLines fault.message)) := by
  refine ⟨?lines, ?ends, ?messages⟩
  case lines =>
    intro index line found
    have stands := Text.standsIn_of_mem_lines (List.mem_of_getElem? found)
    exact ⟨stands.marks, stands.isContent.1, stands.isContent.2,
      fun front back shape => Text.resolve?_on_line found shape⟩
  case ends =>
    intro front char back shape
    rw [← or_assoc]
    apply (Text.isLineEnd_or_covered shape).imp_left
    intro ends
    simpa [Text.isLineEnd] using ends
  case messages =>
    intro options diagnostics refused
    have shown : messageLines (RunFault.malformed text diagnostics).message = _ :=
      messageLines_renderDiagnostics refused
    refine ⟨.malformed text diagnostics, run_of_refused options refused, ?_, ?_⟩
    · rw [shown, List.length_map]
    · rw [shown, List.forall₂_map_right_iff, List.forall₂_same]
      exact fun diagnostic listed => shownAs_renderMessage refused listed

/-- A text with a blank line of carriage returns, an empty line, two lines that are no rules,
a comment, and no line feed at its end. -/
def raggedLines : String := "\r\r\n\nλ é B\r\r\n; x\n= A"

/-- Its third and its fifth line are at fault. -/
theorem raggedLines_shown :
    parse raggedLines = .error [⟨.missingEquals, 4, 9⟩, ⟨.notNonterminal, 18, 19⟩] ∧
      (Text.Resolver.ofText raggedLines).resolve? 9 = some ⟨3, 4⟩ ∧
      ∃ fault, run ⟨"ragged", none, false, false, false⟩ (.ok raggedLines) = .error fault ∧
        messageLines fault.message =
          ["FATAL [3,1]-[3,4]: Expected `=` after nonterminal",
            "FATAL [5,1]-[5,2]: Tried to define something other than a nonterminal"] ∧
        ShownAs raggedLines ⟨.missingEquals, 4, 9⟩
          "FATAL [3,1]-[3,4]: Expected `=` after nonterminal" := by
  have refused : parse raggedLines =
      .error [⟨.missingEquals, 4, 9⟩, ⟨.notNonterminal, 18, 19⟩] := by
    decide +kernel
  have third : (Text.lines raggedLines)[2]? = some ⟨4, "λ é B"⟩ := by decide +kernel
  obtain ⟨lines, _, messages⟩ := lines_counted_alike raggedLines
  have position := (lines 2 _ third).2.2.2 "λ é".toList " B".toList (by decide)
  obtain ⟨fault, failed, _, shown⟩ := messages ⟨"ragged", none, false, false, false⟩ _ refused
  have same : messageLines fault.message =
      ["FATAL [3,1]-[3,4]: Expected `=` after nonterminal",
        "FATAL [5,1]-[5,2]: Tried to define something other than a nonterminal"] := by
    cases failed.symm.trans (run_of_refused _ refused)
    decide +kernel
  rw [same] at shown
  cases shown with
  | cons first _ => exact ⟨refused, position, fault, failed, same, first⟩

end Program

end Lookahead
