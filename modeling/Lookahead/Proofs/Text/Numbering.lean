import Lookahead.Proofs.Text.Lines
import Lookahead.Proofs.Text.Resolver

/-!
# Numbers of lines

The lines that a text is read by and the lines that positions are counted in come from
different parts of the program.  They agree: a place on the line of a number has a
position with this number, and its column is known from what stands before the place
on the line.
-/

namespace Lookahead.Text

variable {chars front back piece : List Char} {before after : List (List Char)}
variable {text : String} {line : SourceLine} {index : Nat}

/-! ## Line feeds -/

theorem count_lineFeed_of_mem_dropLast (member : piece ∈ (pieces chars).dropLast) :
    piece.count '\n' = 1 := by
  have listed : piece ∈ pieces chars := (List.dropLast_sublist _).mem member
  have final := getLast?_of_mem_dropLast member
  rcases no_lineFeed_before_end listed with ⟨body, noFeed, rfl | rfl⟩
  · exact absurd (List.mem_of_getLast? final) noFeed
  · rw [List.count_append, List.count_eq_zero.2 noFeed]
    rfl

/-- There are as many line feeds before a piece as there are pieces. -/
theorem count_lineFeed_flatten (split : pieces chars = before ++ piece :: after) :
    before.flatten.count '\n' = before.length := by
  have one : ∀ earlier ∈ before, earlier.count '\n' = 1 := by
    intro earlier member
    have notLast : earlier ∈ (pieces chars).dropLast := by
      rw [split, List.dropLast_append_cons]
      exact List.mem_append_left _ member
    exact count_lineFeed_of_mem_dropLast notLast
  rw [List.count_flatten, List.map_congr_left one, List.map_const', List.sum_replicate_nat,
    Nat.mul_one]

/-! ## Positions -/

/-- A place on the line of a number has the position of this number.  Its column counts the
characters before it on the line. -/
theorem resolve?_on_line (found : (lines text)[index]? = some line)
    (shape : line.content.toList = front ++ back) :
    (Resolver.ofText text).resolve? (line.offset + byteLength front) =
      some ⟨index + 1, front.length + 1⟩ := by
  obtain ⟨before, piece, after, split, rfl, rfl⟩ := exists_piece_of_getElem?_linesFrom found
  obtain ⟨isContent, ending, whole, _⟩ := frame_of_pieces split
  rw [String.toList_ofList] at shape
  rw [shape, List.append_assoc] at whole
  have noFeed := isContent.1
  rw [shape, List.mem_append, not_or] at noFeed
  have position := Resolver.resolve?_boundary whole (getLast?_flatten_of_pieces split) noFeed.1
  rw [count_lineFeed_flatten split, byteLength_append] at position
  rw [Nat.zero_add, position]

/-- A part of the line of a number has this number on both sides, and begins before it
ends. -/
theorem ofOffset_of_marks {span : Span} {part : List Char}
    (found : (lines text)[index]? = some line)
    (marks : span.Marks line.offset line.content.toList part) (inhabited : part ≠ []) :
    ∃ first last, first < last ∧ Position.ofOffset text span.start = ⟨index + 1, first⟩ ∧
      Position.ofOffset text span.stop = ⟨index + 1, last⟩ := by
  obtain ⟨front, back, shape, begins, ends⟩ := marks
  have shape' : line.content.toList = (front ++ part) ++ back := by
    rw [shape, List.append_assoc]
  have first := resolve?_on_line found shape
  have last := resolve?_on_line found shape'
  rw [byteLength_append, ← Nat.add_assoc, ← begins, ← ends] at last
  rw [← begins] at first
  refine ⟨front.length + 1, (front ++ part).length + 1, ?_, ?_, ?_⟩
  · have wide := List.length_pos_iff.2 inhabited
    rw [List.length_append]
    omega
  · rw [Position.ofOffset, first, Option.getD_some]
  · rw [Position.ofOffset, last, Option.getD_some]

/-! ## What is on no line -/

theorem isLineEnd_or_covered_linesFrom (offset : Nat) (parts : List (List Char)) {char : Char}
    (shape : parts.flatten = front ++ char :: back) :
    isLineEnd char = true ∨
      ∃ line ∈ linesFrom offset parts, line.span.start ≤ offset + byteLength front ∧
        offset + byteLength front < line.span.stop := by
  induction parts generalizing offset front with
  | nil => simp at shape
  | cons piece later ih =>
      rw [List.flatten_cons] at shape
      rcases cons_append_cases shape with ⟨between, inPiece⟩ | ⟨between, rfl, behind⟩
      · obtain ⟨ending, ended, only⟩ := exists_ending piece
        rcases cons_append_cases (ended.symm.trans inPiece) with
          ⟨between, inContent⟩ | ⟨between, _, inEnding⟩
        · right
          refine ⟨_, List.mem_cons_self, Nat.le_add_right _ _, ?_⟩
          have wide := char.utf8Size_pos
          simp only [SourceLine.span, String.toList_ofList, inContent, byteLength_append,
            byteLength_cons]
          omega
        · left
          apply only
          rw [inEnding]
          simp
      · rcases ih (offset + byteLength piece) behind with ends | ⟨line, member, covered⟩
        · exact .inl ends
        · rw [Nat.add_assoc, ← byteLength_append] at covered
          exact .inr ⟨line, List.mem_cons_of_mem _ member, covered⟩

/-- What is on no line is a line-end character. -/
theorem isLineEnd_or_covered {char : Char} (shape : text.toList = front ++ char :: back) :
    isLineEnd char = true ∨
      ∃ line ∈ lines text, line.span.start ≤ byteLength front ∧
        byteLength front < line.span.stop := by
  rw [← flatten_pieces text.toList] at shape
  have covered := isLineEnd_or_covered_linesFrom 0 _ shape
  rwa [Nat.zero_add] at covered

end Lookahead.Text
