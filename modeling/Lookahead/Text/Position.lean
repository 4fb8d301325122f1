import Lookahead.Text.Bytes

/-!
# Positions in a text

A position is what a reader looks for in an editor: a line and a column, both
counted from one.  A resolver finds positions from byte offsets.  It keeps the
offsets at which the lines of its text begin and searches them by halves.
-/

namespace Lookahead.Text

/-! ## Search -/

/-- Search by halves among the items from place `low` on and before place `high`
for the first one that is not accepted. -/
def partitionWithin {α : Type} (accepts : α → Bool) (items : List α) (low high : Nat)
    (within : high ≤ items.length) : Nat :=
  if wide : low < high then
    let middle := low + (high - low) / 2
    have inside : middle < items.length := by omega
    if accepts items[middle] then partitionWithin accepts items (middle + 1) high within
    else partitionWithin accepts items low middle (Nat.le_of_lt inside)
  else low
termination_by high - low

/-- How many items are accepted, if all accepted ones come before the others. -/
def partitionPoint {α : Type} (accepts : α → Bool) (items : List α) : Nat :=
  partitionWithin accepts items 0 items.length (Nat.le_refl _)

/-! ## Positions -/

/-- A line number and a column number, both counted from one. -/
structure Position where
  line : Nat
  column : Nat
  deriving DecidableEq, Repr

/-- A text and the byte offsets at which its lines begin. -/
structure Resolver where
  text : String
  lineStarts : List Nat
  deriving DecidableEq, Repr

namespace Resolver

/-- The byte offsets after the line feeds of characters that begin at byte
`start`. -/
def startsAfterFeeds (start : Nat) : List Char → List Nat
  | [] => []
  | char :: rest =>
      let next := start + char.utf8Size
      if char = '\n' then next :: startsAfterFeeds next rest else startsAfterFeeds next rest

/-- The resolver of a text.  Its first line begins with the text, and each other one
after a line feed. -/
def ofText (text : String) : Resolver :=
  ⟨text, 0 :: startsAfterFeeds 0 text.toList⟩

/-- The position of a byte offset.  An offset past the end of the text stands for its
end.  Columns count characters, unless the offset falls inside a character: then
they count bytes.  There is no position if the offset has no line, or lies before the
one it is said to be on. -/
def resolve? (resolver : Resolver) (offset : Nat) : Option Position := do
  let chars := resolver.text.toList
  let offset := min offset (byteLength chars)
  let line := partitionPoint (· ≤ offset) resolver.lineStarts
  let place ← difference? line 1
  let lineStart ← resolver.lineStarts[place]?
  let bytes ← difference? offset lineStart
  let column := ((slice? chars lineStart offset).map List.length).getD bytes
  return ⟨line, column + 1⟩

end Resolver

namespace Position

/-- The position of a byte offset in a text.  The resolver of a text finds one for
every offset. -/
def ofOffset (text : String) (offset : Nat) : Position :=
  ((Resolver.ofText text).resolve? offset).getD ⟨1, 1⟩

/-- A position as it is written in messages. -/
def render (position : Position) : String :=
  "[" ++ toString position.line ++ "," ++ toString position.column ++ "]"

end Position

end Lookahead.Text
