import Lookahead.Span
import Lookahead.Text.Bytes

/-!
# Text under spans

A span marks a part of a text when the part takes up exactly its bytes.  Both ends
of the span then fall between characters, and no other part stands there.
-/

namespace Lookahead

namespace Text

theorem byteLength_eq_zero_iff {chars : List Char} : byteLength chars = 0 ↔ chars = [] := by
  cases chars with
  | nil => simp
  | cons char rest =>
      have wide := char.utf8Size_pos
      simp only [byteLength_cons, reduceCtorEq, iff_false]
      omega

theorem byteLength_pos {chars : List Char} (inhabited : chars ≠ []) : 0 < byteLength chars :=
  Nat.pos_of_ne_zero fun none => inhabited (byteLength_eq_zero_iff.1 none)

/-- A front of a text is known by its number of bytes. -/
theorem front_eq_of_byteLength_eq {front other back rest : List Char}
    (same : front ++ back = other ++ rest) (bytes : byteLength front = byteLength other) :
    front = other := by
  induction front generalizing other with
  | nil => exact (byteLength_eq_zero_iff.1 bytes.symm).symm
  | cons char front ih =>
      cases other with
      | nil => exact byteLength_eq_zero_iff.1 bytes
      | cons first other =>
          rw [List.cons_append, List.cons_append, List.cons.injEq] at same
          obtain ⟨rfl, same⟩ := same
          rw [byteLength_cons, byteLength_cons, Nat.add_left_cancel_iff] at bytes
          rw [ih same bytes]

/-- A character among others stands in their front or in their back. -/
theorem cons_append_cases {left right front back : List Char} {char : Char}
    (shape : left ++ right = front ++ char :: back) :
    (∃ between, left = front ++ char :: between) ∨
      ∃ between, front = left ++ between ∧ right = between ++ char :: back := by
  rcases List.append_eq_append_iff.1 shape with ⟨between, whole, later⟩ | ⟨between, whole, later⟩
  · exact .inr ⟨between, whole, later⟩
  · cases between with
    | nil =>
        rw [List.append_nil] at whole
        exact .inr ⟨[], by rw [whole, List.append_nil], later.symm⟩
    | cons other between =>
        cases later
        exact .inl ⟨between, whole⟩

/-- A byte offset falls between two characters exactly if some of them end there. -/
theorem isValid_iff_exists_front {text : String} {offset : Nat} :
    String.Pos.Raw.IsValid text ⟨offset⟩ ↔
      ∃ front back, text.toList = front ++ back ∧ offset = byteLength front := by
  rw [String.Pos.Raw.isValid_iff_exists_append]
  constructor
  · rintro ⟨front, back, rfl, ends⟩
    refine ⟨front.toList, back.toList, String.toList_append, ?_⟩
    rw [byteLength_toList]
    exact congrArg String.Pos.Raw.byteIdx ends
  · rintro ⟨front, back, shape, rfl⟩
    refine ⟨String.ofList front, String.ofList back, ?_, ?_⟩
    · rw [← String.ofList_append, ← shape, String.ofList_toList]
    · apply String.Pos.Raw.ext
      have bytes := byteLength_toList (String.ofList front)
      rw [String.toList_ofList] at bytes
      exact bytes

end Text

/-- A span marks a part of the characters that begin at byte `start`: it goes from
where the part begins to where the part ends. -/
def Span.Marks (span : Span) (start : Nat) (chars part : List Char) : Prop :=
  ∃ front back, chars = front ++ (part ++ back) ∧
    span.start = start + Text.byteLength front ∧ span.stop = span.start + Text.byteLength part

namespace Span.Marks

variable {span outer : Span} {start : Nat} {chars part other front back : List Char}

/-- No other part stands there. -/
theorem part_eq (left : span.Marks start chars part) (right : span.Marks start chars other) :
    part = other := by
  obtain ⟨front, back, shape, begins, ends⟩ := left
  obtain ⟨front', back', shape', begins', ends'⟩ := right
  have sameFront : front = front' :=
    Text.front_eq_of_byteLength_eq (shape.symm.trans shape') (by omega)
  subst sameFront
  have sameRest := List.append_cancel_left (shape.symm.trans shape')
  exact Text.front_eq_of_byteLength_eq sameRest (by omega)

/-- A marked part lies within the characters. -/
theorem bounds (marks : span.Marks start chars part) :
    start ≤ span.start ∧ span.start ≤ span.stop ∧
      span.stop ≤ start + Text.byteLength chars := by
  obtain ⟨front, back, shape, begins, ends⟩ := marks
  rw [shape, Text.byteLength_append, Text.byteLength_append]
  omega

theorem start_lt_stop (marks : span.Marks start chars part) (inhabited : part ≠ []) :
    span.start < span.stop := by
  obtain ⟨_, _, _, _, ends⟩ := marks
  have wide := Text.byteLength_pos inhabited
  omega

theorem sublist (marks : span.Marks start chars part) : part.Sublist chars := by
  obtain ⟨front, back, shape, _⟩ := marks
  rw [shape]
  exact (List.sublist_append_left part back).trans (List.sublist_append_right front _)

/-- A part that ends where the characters end is their back. -/
theorem exists_front (marks : span.Marks start chars part)
    (toEnd : span.stop = start + Text.byteLength chars) : ∃ front, chars = front ++ part := by
  obtain ⟨front, back, rfl, begins, ends⟩ := marks
  rw [Text.byteLength_append, Text.byteLength_append] at toEnd
  have nothing : back = [] := Text.byteLength_eq_zero_iff.1 (by omega)
  exact ⟨front, by rw [nothing, List.append_nil]⟩

/-- All the characters are a part of themselves. -/
theorem whole (start : Nat) (chars : List Char) :
    Span.Marks ⟨start, start + Text.byteLength chars⟩ start chars chars :=
  ⟨[], [], by simp, rfl, rfl⟩

/-- A part of the back is marked by the same span in the whole. -/
theorem append_left (front : List Char)
    (marks : span.Marks (start + Text.byteLength front) back part) :
    span.Marks start (front ++ back) part := by
  obtain ⟨before, after, rfl, begins, ends⟩ := marks
  refine ⟨front ++ before, after, by simp, ?_, ends⟩
  rw [begins, Text.byteLength_append, Nat.add_assoc]

/-- A part of a part is marked by the same span in the whole. -/
theorem trans (whole : outer.Marks start chars other) (marks : span.Marks outer.start other part) :
    span.Marks start chars part := by
  obtain ⟨front, back, rfl, begins, _⟩ := whole
  obtain ⟨before, after, rfl, begins', ends'⟩ := marks
  refine ⟨front ++ before, after ++ back, by simp, ?_, ends'⟩
  rw [begins', begins, Text.byteLength_append, Nat.add_assoc]

/-- Both ends of a marked part of a text fall between its characters. -/
theorem isValid {text : String} (marks : span.Marks 0 text.toList part) :
    String.Pos.Raw.IsValid text ⟨span.start⟩ ∧ String.Pos.Raw.IsValid text ⟨span.stop⟩ := by
  obtain ⟨front, back, shape, begins, ends⟩ := marks
  constructor
  · rw [Text.isValid_iff_exists_front]
    exact ⟨front, part ++ back, shape, by rw [begins, Nat.zero_add]⟩
  · rw [Text.isValid_iff_exists_front]
    refine ⟨front ++ part, back, by rw [shape, List.append_assoc], ?_⟩
    rw [ends, begins, Nat.zero_add, Text.byteLength_append]

end Span.Marks

end Lookahead
