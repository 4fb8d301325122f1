import Lookahead.Proofs.Text.Positions
import Lookahead.Proofs.Text.RuleLines
import Mathlib.Data.List.Forall2

/-!
# Edited texts

Carriage returns before the line feeds of a text keep the contents of its lines and
the positions on them.  A line that is put between the lines of a text keeps the
lines before it where they are and moves those after it by its bytes.
-/

namespace Lookahead.Text

variable {chars front piece : List Char}

/-! ## Carriage returns -/

/-- The characters with a carriage return before every line feed. -/
def addReturns (chars : List Char) : List Char :=
  chars.flatMap fun char => if char = '\n' then ['\r', '\n'] else [char]

/-- The text with a carriage return before every line feed. -/
def withReturns (text : String) : String :=
  String.ofList (addReturns text.toList)

theorem addReturns_cons (char : Char) (chars : List Char) :
    addReturns (char :: chars) =
      (if char = '\n' then ['\r', '\n'] else [char]) ++ addReturns chars :=
  List.flatMap_cons

theorem addReturns_lineFeed : addReturns ['\n'] = ['\r', '\n'] := rfl

theorem addReturns_append (front back : List Char) :
    addReturns (front ++ back) = addReturns front ++ addReturns back :=
  List.flatMap_append

theorem addReturns_of_no_lineFeed (noFeed : '\n' ∉ chars) : addReturns chars = chars := by
  induction chars with
  | nil => rfl
  | cons char chars ih =>
      rw [List.mem_cons, not_or] at noFeed
      rw [addReturns_cons, if_neg (Ne.symm noFeed.1), ih noFeed.2, List.singleton_append]

theorem count_addReturns (chars : List Char) :
    (addReturns chars).count '\n' = chars.count '\n' := by
  induction chars with
  | nil => rfl
  | cons char chars ih =>
      rw [addReturns_cons, List.count_append, ih, List.count_cons]
      by_cases feed : char = '\n'
      · simp [feed, Nat.add_comm]
      · simp [feed]

theorem flatten_map_addReturns (parts : List (List Char)) :
    (parts.map addReturns).flatten = addReturns parts.flatten := by
  induction parts with
  | nil => rfl
  | cons piece parts ih =>
      rw [List.map_cons, List.flatten_cons, List.flatten_cons, addReturns_append, ih]

theorem pieces_addReturns (chars : List Char) :
    pieces (addReturns chars) = (pieces chars).map addReturns := by
  induction chars with
  | nil => rfl
  | cons char chars ih =>
      rw [addReturns_cons]
      by_cases feed : char = '\n'
      · simp [feed, pieces, ih, addReturns_lineFeed]
      · rw [if_neg feed, List.singleton_append, pieces, pieces, if_neg feed, if_neg feed, ih]
        cases pieces chars with
        | nil => simp [addReturns, feed]
        | cons piece later => simp [addReturns_cons, feed]

theorem content_addReturns (member : piece ∈ pieces chars) :
    content (addReturns piece) = content piece := by
  rcases no_lineFeed_before_end member with ⟨body, noFeed, rfl | rfl⟩
  · rw [addReturns_of_no_lineFeed noFeed]
  · rw [addReturns_append, addReturns_of_no_lineFeed noFeed, content_append_lineFeed,
      addReturns_lineFeed]
    exact content_append (by simp [isLineEnd])

/-- The lines are those of the same pieces, whether or not these have carriage
returns. -/
theorem forall₂_linesFrom_addReturns (before parts : List (List Char)) :
    List.Forall₂
      (fun line other => ∃ earlier piece later, before ++ parts = earlier ++ piece :: later ∧
        line = ⟨byteLength earlier.flatten, String.ofList (content piece)⟩ ∧
        other = ⟨byteLength (addReturns earlier.flatten),
          String.ofList (content (addReturns piece))⟩)
      (linesFrom (byteLength before.flatten) parts)
      (linesFrom (byteLength (addReturns before.flatten)) (parts.map addReturns)) := by
  induction parts generalizing before with
  | nil => exact .nil
  | cons piece parts ih =>
      have moved := ih (before ++ [piece])
      rw [List.append_assoc, List.singleton_append, List.flatten_append, List.flatten_singleton,
        addReturns_append, byteLength_append, byteLength_append] at moved
      exact .cons ⟨before, piece, parts, rfl, rfl, rfl⟩ moved

/-- With carriage returns the lines have the same contents, and what stands on them
the same positions. -/
theorem forall₂_lines_withReturns (text : String) :
    List.Forall₂
      (fun line other => line.content = other.content ∧
        ∀ bytes ≤ byteLength line.content.toList,
          Position.ofOffset text (line.offset + bytes) =
            Position.ofOffset (withReturns text) (other.offset + bytes))
      (lines text) (lines (withReturns text)) := by
  have inPieces : (withReturns text).toList = addReturns text.toList := String.toList_ofList
  have pairs := forall₂_linesFrom_addReturns [] (pieces text.toList)
  rw [← pieces_addReturns, ← inPieces] at pairs
  refine pairs.imp ?_
  rintro _ _ ⟨before, piece, after, split, rfl, rfl⟩
  rw [List.nil_append] at split
  have split' : pieces (withReturns text).toList =
      before.map addReturns ++ addReturns piece :: after.map addReturns := by
    rw [inPieces, pieces_addReturns, split, List.map_append, List.map_cons]
  have listed : piece ∈ pieces text.toList := by
    rw [split]
    simp
  have same := content_addReturns listed
  constructor
  · rw [same]
  · intro bytes within
    rw [String.toList_ofList] at within
    rw [← flatten_map_addReturns, Position.ofOffset_on_piece split within,
      Position.ofOffset_on_piece split' (by rwa [same]), same, flatten_map_addReturns,
      count_addReturns]

/-! ## Lines put in between -/

/-- The pieces of two texts are those of the texts together, if the first text ends
with a line. -/
theorem pieces_append (ends : front = [] ∨ front.getLast? = some '\n') (back : List Char) :
    pieces (front ++ back) = pieces front ++ pieces back := by
  induction front with
  | nil => rfl
  | cons char front ih =>
      rw [or_iff_right (List.cons_ne_nil _ _)] at ends
      cases front with
      | nil =>
          rw [List.getLast?_singleton, Option.some.injEq] at ends
          simp [pieces, ends]
      | cons next front =>
          rw [List.getLast?_cons_cons] at ends
          have later := ih (.inr ends)
          rw [List.cons_append, pieces, later]
          conv_rhs => rw [pieces]
          split
          · rfl
          · cases found : pieces (next :: front) with
            | nil =>
                have whole := flatten_pieces (next :: front)
                rw [found] at whole
                cases whole
            | cons piece others => rfl

theorem linesFrom_append (offset : Nat) (parts others : List (List Char)) :
    linesFrom offset (parts ++ others) =
      linesFrom offset parts ++ linesFrom (offset + byteLength parts.flatten) others := by
  induction parts generalizing offset with
  | nil => rfl
  | cons piece parts ih =>
      rw [List.cons_append, linesFrom, linesFrom, ih, List.flatten_cons, byteLength_append,
        Nat.add_assoc, List.cons_append]

/-- A line that begins some bytes later. -/
def SourceLine.later (count : Nat) (line : SourceLine) : SourceLine :=
  ⟨line.offset + count, line.content⟩

theorem linesFrom_add (offset count : Nat) (parts : List (List Char)) :
    linesFrom (offset + count) parts = (linesFrom offset parts).map (.later count) := by
  induction parts generalizing offset with
  | nil => rfl
  | cons piece parts ih =>
      rw [linesFrom, linesFrom, List.map_cons, ← ih, Nat.add_right_comm]
      rfl

/-- The lines of two texts are those of the texts together, if the first text ends
with a line. -/
theorem lines_append {front : String} (ends : front = "" ∨ front.toList.getLast? = some '\n')
    (back : String) :
    lines (front ++ back) = lines front ++ linesFrom front.utf8ByteSize (pieces back.toList) := by
  rw [← String.toList_eq_nil_iff] at ends
  rw [lines, lines, String.toList_append, pieces_append ends, linesFrom_append, flatten_pieces,
    byteLength_toList, Nat.zero_add]

/-- What stands on a line ends before a text that ends with a line does. -/
theorem SourceLine.StandsIn.stop_lt {line : SourceLine} (stands : line.StandsIn chars)
    (ends : chars.getLast? = some '\n') (inhabited : line.content.toList ≠ []) :
    line.span.stop < byteLength chars := by
  obtain ⟨front, ending, back, rfl, begins, _⟩ := stands.framed
  have wide : ending ++ back ≠ [] := by
    intro nothing
    rw [nothing, List.append_nil, List.getLast?_append_of_ne_nil _ inhabited] at ends
    exact stands.isContent.1 (List.mem_of_getLast? ends)
  have bytes := byteLength_pos wide
  rw [byteLength_append] at bytes
  simp only [span, begins, byteLength_append]
  omega

/-- The lines of a text that ends with a line end before it does, if they are not
empty. -/
theorem stop_lt_of_mem_lines {front : String}
    (ends : front = "" ∨ front.toList.getLast? = some '\n') {line : SourceLine}
    (member : line ∈ lines front) (inhabited : line.content.toList ≠ []) :
    line.span.stop < front.utf8ByteSize := by
  rw [← byteLength_toList]
  rcases ends with rfl | ends
  · cases member
  · exact (standsIn_of_mem_lines member).stop_lt ends inhabited

/-- A line without a rule that is put between the lines of a text moves the rule lines
after it by its bytes, and does nothing else to the rule lines. -/
theorem ruleLines_insert {front extra : String}
    (ends : front = "" ∨ front.toList.getLast? = some '\n') (noFeed : '\n' ∉ extra.toList)
    (bare : isRuleLine extra = false) (back : String) :
    ∃ after, ruleLines (front ++ back) = ruleLines front ++ after ∧
      ruleLines (front ++ extra ++ "\n" ++ back) =
        ruleLines front ++ after.map (.later (extra.utf8ByteSize + 1)) ∧
      ∀ line ∈ after, front.utf8ByteSize ≤ line.offset := by
  have grouped : front ++ extra ++ "\n" ++ back = front ++ (extra ++ "\n" ++ back) := by
    simp only [String.append_assoc]
  have shape : (extra ++ "\n" ++ back).toList = extra.toList ++ '\n' :: back.toList := by
    simp
  have size : byteLength (extra.toList ++ ['\n']) = extra.utf8ByteSize + 1 := by
    rw [byteLength_append, byteLength_toList]
    rfl
  have skipped : isRuleLine (String.ofList (content (extra.toList ++ ['\n']))) = false := by
    rw [content_append_lineFeed, isRuleLine_content, String.ofList_toList, bare]
  refine ⟨(linesFrom front.utf8ByteSize (pieces back.toList)).filter (isRuleLine ·.content),
    ?_, ?_, ?_⟩
  · rw [ruleLines, ruleLines, lines_append ends, List.filter_append]
  · rw [grouped, ruleLines, ruleLines, lines_append ends, shape, pieces_append_lineFeed noFeed,
      linesFrom, size, linesFrom_add, List.filter_append,
      List.filter_cons_of_neg (by simpa using skipped), List.filter_map]
    rfl
  · intro line member
    exact le_offset_of_mem_linesFrom (List.mem_filter.1 member).1

end Lookahead.Text
