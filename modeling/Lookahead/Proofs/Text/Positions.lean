import Lookahead.Proofs.Text.Lines
import Lookahead.Proofs.Text.Resolver

/-!
# Positions on a line

The line number of a place is known from the line feeds in front of its line, and the
column from what stands before the place on the line.
-/

namespace Lookahead.Text

variable {front back piece : List Char} {bytes : Nat}

/-- The line number of a place on a line is known from the line feeds in front of the
line, and its column from the content of the line. -/
theorem Position.ofOffset_on_line {text content : String}
    (shape : text.toList = front ++ (content.toList ++ back))
    (ends : front = [] ∨ front.getLast? = some '\n') (noFeed : '\n' ∉ content.toList)
    (within : bytes ≤ byteLength content.toList) :
    Position.ofOffset text (byteLength front + bytes) =
      ⟨front.count '\n' + 1, (Position.ofOffset content bytes).column⟩ := by
  obtain ⟨line, rest, cut⟩ := exists_isCut within
  have solid : '\n' ∉ line := by
    rw [cut.shape, List.mem_append, not_or] at noFeed
    exact noFeed.1
  have inText := cut.between front back
  rw [← shape] at inText
  have alone : IsCut content.toList bytes ([] ++ line) rest := cut
  rw [ofOffset_of_isCut inText ends solid, ofOffset_of_isCut alone (.inl rfl) solid]
  simp

/-- The same, for a line that is known by the pieces of the text. -/
theorem Position.ofOffset_on_piece {text : String} {before after : List (List Char)}
    (split : pieces text.toList = before ++ piece :: after)
    (within : bytes ≤ byteLength (content piece)) :
    Position.ofOffset text (byteLength before.flatten + bytes) =
      ⟨before.flatten.count '\n' + 1,
        (Position.ofOffset (String.ofList (content piece)) bytes).column⟩ := by
  obtain ⟨isContent, ending, whole, _⟩ := frame_of_pieces split
  rw [← String.toList_ofList (l := content piece)] at isContent whole within
  exact ofOffset_on_line whole (getLast?_flatten_of_pieces split) isContent.1 within

theorem Position.ofOffset_zero (text : String) : Position.ofOffset text 0 = ⟨1, 1⟩ := by
  have origin : IsCut text.toList 0 ([] ++ []) text.toList := .boundary [] text.toList
  rw [ofOffset_of_isCut origin (.inl rfl) List.not_mem_nil]
  rfl

end Lookahead.Text
