import Lookahead.Text.Bytes
import Lookahead.Text.CharClass

/-!
# Lines of a text

A line ends after its line feed or with the text.  A line is known by its
content, which is what stands before the line-end characters, and by the byte
offset where it begins.
-/

namespace Lookahead.Text

/-- The pieces of a text, each ending after a line feed or with the text.  No
piece is empty and their concatenation is the text. -/
def pieces : List Char → List (List Char)
  | [] => []
  | char :: rest =>
      if char = '\n' then [char] :: pieces rest
      else
        match pieces rest with
        | [] => [[char]]
        | piece :: later => (char :: piece) :: later

@[simp] theorem flatten_pieces (chars : List Char) : (pieces chars).flatten = chars := by
  induction chars with
  | nil => rfl
  | cons char rest ih =>
      simp only [pieces]
      split
      · simp [ih]
      · split
        · next atEnd =>
            rw [atEnd] at ih
            simpa using ih
        · next piece later found =>
            rw [found] at ih
            simpa using ih

/-- Whether a character belongs to a line end. -/
def isLineEnd (char : Char) : Bool :=
  char == '\n' || char == '\r'

/-- A piece without the line-end characters at its end. -/
def content (piece : List Char) : List Char :=
  (piece.reverse.dropWhile isLineEnd).reverse

/-- A line of a text: where it begins, and its content. -/
structure SourceLine where
  offset : Nat
  content : String
  deriving DecidableEq, Repr

/-- The lines made of consecutive pieces, the first of which begins at
`offset`. -/
def linesFrom (offset : Nat) : List (List Char) → List SourceLine
  | [] => []
  | piece :: later =>
      ⟨offset, String.ofList (content piece)⟩ :: linesFrom (offset + byteLength piece) later

/-- The lines of a text in order. -/
def lines (text : String) : List SourceLine :=
  linesFrom 0 (pieces text.toList)

/-- Whether a line holds a rule: it has a character that is not a blank, and the
first such character does not begin a comment. -/
def isRuleLine (content : String) : Bool :=
  match content.toList.dropWhile isBlank with
  | [] => false
  | char :: _ => char != ';'

end Lookahead.Text
