import Lookahead.Proofs.Text.Places
import Lookahead.Text.Lines
import Mathlib.Data.List.TakeWhile

/-!
# Contents of lines

The content of a line holds no line feed and does not end in a carriage return,
and only line-end characters are between it and the next line.  Texts of this kind,
written one on a line, are read back as the contents of the lines.
-/

namespace Lookahead.Text

/-- A sequence of characters that can be the content of a line. -/
def IsContent (chars : List Char) : Prop :=
  '\n' ∉ chars ∧ chars.getLast? ≠ some '\r'

variable {chars rest piece : List Char}

namespace IsContent

theorem nil : IsContent [] := by
  simp [IsContent]

theorem append {front back : List Char} (left : IsContent front) (right : IsContent back) :
    IsContent (front ++ back) := by
  constructor
  · rw [List.mem_append, not_or]
    exact ⟨left.1, right.1⟩
  · rw [List.getLast?_append]
    cases final : back.getLast? with
    | none => exact left.2
    | some last =>
        rw [Option.some_or, ← final]
        exact right.2

/-- Contents can be joined by a content. -/
theorem intercalate {separator : String} {parts : List String}
    (between : IsContent separator.toList) (every : ∀ part ∈ parts, IsContent part.toList) :
    IsContent (separator.intercalate parts).toList := by
  induction parts with
  | nil => exact nil
  | cons part parts ih =>
      rw [List.forall_mem_cons] at every
      cases parts with
      | nil =>
          rw [String.intercalate_singleton]
          exact every.1
      | cons next parts =>
          rw [String.intercalate_cons_cons, String.toList_append, String.toList_append]
          exact (every.1.append between).append (ih every.2)

end IsContent

/-! ## Contents of pieces -/

/-- Line-end characters at the end of a piece are not part of its content. -/
theorem content_append {ending : List Char} (only : ∀ char ∈ ending, isLineEnd char = true) :
    content (piece ++ ending) = content piece := by
  have inside : ∀ char ∈ ending.reverse, isLineEnd char = true :=
    fun char member => only char (List.mem_reverse.1 member)
  rw [content, content, List.reverse_append, List.dropWhile_append_of_pos inside]

theorem content_append_lineFeed (piece : List Char) :
    content (piece ++ ['\n']) = content piece :=
  content_append (by simp [isLineEnd])

/-- Nothing is cut off from a content. -/
theorem content_of_isContent (plain : IsContent chars) : content chars = chars := by
  rcases List.eq_nil_or_concat chars with empty | ⟨front, last, shape⟩
  · rw [empty]
    rfl
  · rw [List.concat_eq_append] at shape
    subst shape
    have notFeed : last ≠ '\n' := by
      intro equal
      exact plain.1 (by simp [equal])
    have notReturn : last ≠ '\r' := by
      intro equal
      exact plain.2 (by simp [equal])
    simp [content, isLineEnd, notFeed, notReturn]

theorem pieces_append_lineFeed (noFeed : '\n' ∉ chars) (rest : List Char) :
    pieces (chars ++ '\n' :: rest) = (chars ++ ['\n']) :: pieces rest := by
  induction chars with
  | nil => simp [pieces]
  | cons char chars ih =>
      rw [List.mem_cons, not_or] at noFeed
      simp [pieces, Ne.symm noFeed.1, ih noFeed.2]

theorem pieces_of_no_lineFeed (noFeed : '\n' ∉ chars) (inhabited : chars ≠ []) :
    pieces chars = [chars] := by
  induction chars with
  | nil => contradiction
  | cons char chars ih =>
      rw [List.mem_cons, not_or] at noFeed
      cases chars with
      | nil => simp [pieces, Ne.symm noFeed.1]
      | cons next chars =>
          rw [pieces, if_neg (Ne.symm noFeed.1), ih noFeed.2 (List.cons_ne_nil next chars)]

/-- A piece holds no line feed before its end. -/
theorem no_lineFeed_before_end (member : piece ∈ pieces chars) :
    ∃ body, '\n' ∉ body ∧ (piece = body ∨ piece = body ++ ['\n']) := by
  induction chars generalizing piece with
  | nil => cases member
  | cons char chars ih =>
      simp only [pieces] at member
      split at member
      · next feed =>
          cases member with
          | head => exact ⟨[], List.not_mem_nil, .inr (by rw [feed]; rfl)⟩
          | tail _ later => exact ih later
      · next solid =>
          split at member
          · rw [List.mem_singleton] at member
            exact ⟨[char], by simpa using Ne.symm solid, .inl member⟩
          · next first later found =>
              rw [found] at ih
              cases member with
              | head =>
                  rcases ih List.mem_cons_self with ⟨body, noFeed, shape⟩
                  refine ⟨char :: body, by simp [Ne.symm solid, noFeed], ?_⟩
                  rcases shape with rfl | rfl
                  · exact .inl rfl
                  · exact .inr rfl
              | tail _ member => exact ih (List.mem_cons_of_mem first member)

theorem no_lineFeed_in_content (member : piece ∈ pieces chars) : '\n' ∉ content piece := by
  rcases no_lineFeed_before_end member with ⟨body, noFeed, shape⟩
  have cut : content piece = content body := by
    rcases shape with rfl | rfl
    · rfl
    · exact content_append_lineFeed body
  rw [cut]
  intro inContent
  rw [content, List.mem_reverse] at inContent
  exact noFeed (List.mem_reverse.1 ((List.dropWhile_sublist isLineEnd).mem inContent))

theorem getLast?_content_ne (piece : List Char) : (content piece).getLast? ≠ some '\r' := by
  intro final
  rw [content, List.getLast?_reverse] at final
  have stops := List.head?_dropWhile_not isLineEnd piece.reverse
  rw [final] at stops
  simp [isLineEnd] at stops

theorem isContent_content (member : piece ∈ pieces chars) : IsContent (content piece) :=
  ⟨no_lineFeed_in_content member, getLast?_content_ne piece⟩

/-- Only line-end characters are cut off. -/
theorem exists_ending (piece : List Char) :
    ∃ ending, piece = content piece ++ ending ∧ ∀ char ∈ ending, isLineEnd char = true := by
  refine ⟨(piece.reverse.takeWhile isLineEnd).reverse, ?_, ?_⟩
  · rw [content, ← List.reverse_append, List.takeWhile_append_dropWhile, List.reverse_reverse]
  · intro char member
    exact List.mem_takeWhile_imp (List.mem_reverse.1 member)

/-- Every piece but the last one ends in a line feed. -/
theorem getLast?_of_mem_dropLast (member : piece ∈ (pieces chars).dropLast) :
    piece.getLast? = some '\n' := by
  induction chars generalizing piece with
  | nil => cases member
  | cons char rest ih =>
      simp only [pieces] at member
      split at member
      · next feed =>
          cases later : pieces rest with
          | nil => simp [later] at member
          | cons next others =>
              rw [later, List.dropLast_cons_cons, List.mem_cons, ← later] at member
              rcases member with rfl | member
              · rw [feed]
                rfl
              · exact ih member
      · split at member
        · cases member
        · next first later found =>
            rw [found] at ih
            cases later with
            | nil => cases member
            | cons next others =>
                rw [List.dropLast_cons_cons, List.mem_cons] at member
                rcases member with rfl | member
                · have final := ih (List.mem_cons_self)
                  rw [List.getLast?_cons, final]
                  rfl
                · exact ih (List.mem_cons_of_mem first member)

/-! ## Lines -/

/-- The place of the content of a line. -/
def SourceLine.span (line : SourceLine) : Span :=
  ⟨line.offset, line.offset + byteLength line.content.toList⟩

/-- A line stands in a text: it begins with the text or after a line feed, and
only line-end characters are between its content and what comes after the next
line feed. -/
structure SourceLine.StandsIn (line : SourceLine) (text : List Char) : Prop where
  isContent : IsContent line.content.toList
  framed : ∃ front ending back,
    text = front ++ (line.content.toList ++ (ending ++ back)) ∧
      line.offset = byteLength front ∧ (front = [] ∨ front.getLast? = some '\n') ∧
      (∀ char ∈ ending, isLineEnd char = true) ∧ (back = [] ∨ ending.getLast? = some '\n')

/-- The content of a line stands at its place. -/
theorem SourceLine.StandsIn.marks {line : SourceLine} {text : List Char}
    (stands : line.StandsIn text) : line.span.Marks 0 text line.content.toList := by
  obtain ⟨front, ending, back, shape, begins, _⟩ := stands.framed
  exact ⟨front, ending ++ back, shape, by rw [Nat.zero_add]; exact begins, rfl⟩

/-- The line of a number is made of the piece that has as many pieces before it. -/
theorem exists_piece_of_getElem?_linesFrom {offset index : Nat} {line : SourceLine}
    {parts : List (List Char)} (found : (linesFrom offset parts)[index]? = some line) :
    ∃ before piece after, parts = before ++ piece :: after ∧ before.length = index ∧
      line = ⟨offset + byteLength before.flatten, String.ofList (content piece)⟩ := by
  induction parts generalizing offset index with
  | nil => cases found
  | cons piece later ih =>
      cases index with
      | zero =>
          cases found
          exact ⟨[], piece, later, rfl, rfl, rfl⟩
      | succ index =>
          obtain ⟨before, other, after, rfl, rfl, rfl⟩ := ih found
          refine ⟨piece :: before, other, after, rfl, rfl, ?_⟩
          rw [List.flatten_cons, byteLength_append, Nat.add_assoc]

theorem exists_piece_of_mem_linesFrom {offset : Nat} {line : SourceLine}
    {parts : List (List Char)} (member : line ∈ linesFrom offset parts) :
    ∃ before piece after, parts = before ++ piece :: after ∧
      line = ⟨offset + byteLength before.flatten, String.ofList (content piece)⟩ := by
  obtain ⟨_, found⟩ := List.mem_iff_getElem?.1 member
  obtain ⟨before, piece, after, split, _, shape⟩ := exists_piece_of_getElem?_linesFrom found
  exact ⟨before, piece, after, split, shape⟩

/-- Pieces before another piece end in a line feed. -/
theorem getLast?_flatten_of_pieces {before after : List (List Char)}
    (split : pieces chars = before ++ piece :: after) :
    before.flatten = [] ∨ before.flatten.getLast? = some '\n' := by
  rcases List.eq_nil_or_concat before with rfl | ⟨init, last, rfl⟩
  · exact .inl rfl
  · right
    have earlier : last ∈ (pieces chars).dropLast := by
      rw [split, List.concat_eq_append, List.dropLast_append_cons]
      simp
    have final := getLast?_of_mem_dropLast earlier
    rw [List.concat_eq_append, List.flatten_append, List.flatten_singleton, List.getLast?_append,
      final, Option.some_or]

theorem getLast?_ending_of_pieces {before after : List (List Char)} {ending : List Char}
    (split : pieces chars = before ++ piece :: after) (shape : piece = content piece ++ ending) :
    after.flatten = [] ∨ ending.getLast? = some '\n' := by
  cases after with
  | nil => exact .inl rfl
  | cons next after =>
      right
      have earlier : piece ∈ (pieces chars).dropLast := by
        rw [split, List.dropLast_append_cons, List.dropLast_cons_cons]
        simp
      have listed : piece ∈ pieces chars := (List.dropLast_sublist _).mem earlier
      have final := getLast?_of_mem_dropLast earlier
      rw [shape, List.getLast?_append] at final
      cases last : ending.getLast? with
      | none =>
          rw [last, Option.none_or] at final
          exact absurd (List.mem_of_getLast? final) (no_lineFeed_in_content listed)
      | some char => rwa [last, Option.some_or] at final

/-- The content of a piece stands in the characters, and line-end characters between it and
the next piece. -/
theorem frame_of_pieces {before after : List (List Char)}
    (split : pieces chars = before ++ piece :: after) :
    IsContent (content piece) ∧
      ∃ ending, chars = before.flatten ++ (content piece ++ (ending ++ after.flatten)) ∧
        piece = content piece ++ ending ∧ ∀ char ∈ ending, isLineEnd char = true := by
  obtain ⟨ending, shape, only⟩ := exists_ending piece
  have listed : piece ∈ pieces chars := by
    rw [split]
    simp
  refine ⟨isContent_content listed, ending, ?_, shape, only⟩
  have whole := flatten_pieces chars
  rw [split, List.flatten_append, List.flatten_cons] at whole
  rw [← List.append_assoc (content piece), ← shape, whole]

/-- The lines of a text stand in it. -/
theorem standsIn_of_mem_lines {text : String} {line : SourceLine} (member : line ∈ lines text) :
    line.StandsIn text.toList := by
  rcases exists_piece_of_mem_linesFrom member with ⟨before, piece, after, split, rfl⟩
  obtain ⟨isContent, ending, whole, shape, only⟩ := frame_of_pieces split
  rw [← String.toList_ofList (l := content piece)] at isContent whole
  exact ⟨isContent, before.flatten, ending, after.flatten, whole, Nat.zero_add _,
    getLast?_flatten_of_pieces split, only, getLast?_ending_of_pieces split shape⟩

/-- No line of a text holds a line feed. -/
theorem no_lineFeed_in_lines {text : String} {line : SourceLine} (member : line ∈ lines text) :
    '\n' ∉ line.content.toList :=
  (standsIn_of_mem_lines member).isContent.1

theorem le_offset_of_mem_linesFrom {offset : Nat} {line : SourceLine} {parts : List (List Char)}
    (member : line ∈ linesFrom offset parts) : offset ≤ line.offset := by
  rcases exists_piece_of_mem_linesFrom member with ⟨_, _, _, _, rfl⟩
  exact Nat.le_add_right _ _

theorem pairwise_linesFrom (offset : Nat) (parts : List (List Char)) :
    (linesFrom offset parts).Pairwise fun line later => line.span.stop ≤ later.span.start := by
  induction parts generalizing offset with
  | nil => exact .nil
  | cons piece parts ih =>
      refine .cons ?_ (ih _)
      intro later member
      have after := le_offset_of_mem_linesFrom member
      obtain ⟨ending, shape, _⟩ := exists_ending piece
      have bytes := congrArg byteLength shape
      rw [byteLength_append] at bytes
      simp only [SourceLine.span, String.toList_ofList]
      omega

/-- The lines of a text stand one after the other. -/
theorem pairwise_lines (text : String) :
    (lines text).Pairwise fun line later => line.span.stop ≤ later.span.start :=
  pairwise_linesFrom 0 _

theorem linesFrom_append_lineFeed (plain : IsContent chars) (offset : Nat) (rest : List Char) :
    (linesFrom offset (pieces (chars ++ '\n' :: rest))).map SourceLine.content =
      String.ofList chars ::
        (linesFrom (offset + byteLength (chars ++ ['\n'])) (pieces rest)).map
          SourceLine.content := by
  rw [pieces_append_lineFeed plain.1, linesFrom, List.map_cons, content_append_lineFeed,
    content_of_isContent plain]

theorem linesFrom_of_isContent (plain : IsContent chars) (inhabited : chars ≠ [])
    (offset : Nat) :
    (linesFrom offset (pieces chars)).map SourceLine.content = [String.ofList chars] := by
  rw [pieces_of_no_lineFeed plain.1 inhabited, linesFrom, linesFrom, List.map_singleton,
    content_of_isContent plain]

/-- Contents that are written one on a line are the contents of the lines,
whether or not the last line is ended. -/
theorem contents_lines {contents : List String} (inhabited : contents ≠ [])
    (every : ∀ content ∈ contents, IsContent content.toList ∧ content ≠ "") {ending : String}
    (ends : ending = "" ∨ ending = "\n") :
    (lines ("\n".intercalate contents ++ ending)).map SourceLine.content = contents := by
  rw [lines, String.toList_append]
  generalize 0 = offset
  induction contents generalizing offset with
  | nil => contradiction
  | cons content contents ih =>
      rw [List.forall_mem_cons] at every
      cases contents with
      | nil =>
          rw [String.intercalate_singleton]
          rcases ends with rfl | rfl
          · rw [String.toList_empty, List.append_nil, linesFrom_of_isContent every.1.1
              (by simpa using every.1.2), String.ofList_toList]
          · have shape : "\n".toList = ['\n'] := rfl
            rw [shape, linesFrom_append_lineFeed every.1.1, String.ofList_toList]
            rfl
      | cons next contents =>
          have shape : ("\n".intercalate (content :: next :: contents)).toList ++ ending.toList =
              content.toList ++ '\n' ::
                (("\n".intercalate (next :: contents)).toList ++ ending.toList) := by
            simp [String.intercalate_cons_cons]
          rw [shape, linesFrom_append_lineFeed every.1.1, String.ofList_toList,
            ih (List.cons_ne_nil next contents) every.2]

end Lookahead.Text
