import Lookahead.Proofs.Text.Places
import Lookahead.Text.Position
import Mathlib.Data.List.TakeWhile

/-!
# Resolved positions

The lines of a text begin after its line feeds, and the search among their beginnings
finds the line of every offset.  So each offset has a position, which counts the line
feeds before it and what stands behind the last of them, and the places between
characters have positions in their own order.
-/

namespace Lookahead.Text

variable {chars front line whole rest back : List Char} {offset start bytes : Nat}

/-! ## Cuts -/

/-- Characters are cut at a byte offset: `whole` ends there or before, and the next
character after it. -/
structure IsCut (chars : List Char) (offset : Nat) (whole rest : List Char) : Prop where
  shape : chars = whole ++ rest
  reached : byteLength whole ≤ offset
  within : offset ≤ byteLength chars
  beyond : ∀ char ∈ rest.head?, offset < byteLength whole + char.utf8Size

theorem cutAt_zero (chars : List Char) : cutAt chars 0 = ([], 0) := by
  cases chars with
  | nil => rfl
  | cons char rest =>
      rw [cutAt, if_neg]
      exact Nat.not_le.2 char.utf8Size_pos

/-- A place after some characters is a place in those behind them. -/
theorem cutAt_append (front back : List Char) (bytes : Nat) :
    cutAt (front ++ back) (byteLength front + bytes) =
      (front ++ (cutAt back bytes).1, (cutAt back bytes).2) := by
  induction front with
  | nil => simp
  | cons char front ih =>
      have inside : char.utf8Size ≤ byteLength (char :: front) + bytes := by
        rw [byteLength_cons]
        omega
      have rest : byteLength (char :: front) + bytes - char.utf8Size =
          byteLength front + bytes := by
        rw [byteLength_cons]
        omega
      rw [List.cons_append, cutAt, if_pos inside, rest, ih]
      rfl

theorem cutAt_boundary (front back : List Char) :
    cutAt (front ++ back) (byteLength front) = (front, 0) := by
  have cut := cutAt_append front back 0
  rwa [Nat.add_zero, cutAt_zero, List.append_nil] at cut

theorem exists_isCut (within : offset ≤ byteLength chars) :
    ∃ whole rest, IsCut chars offset whole rest := by
  induction chars generalizing offset with
  | nil => exact ⟨[], [], rfl, Nat.zero_le _, within, by simp⟩
  | cons char chars ih =>
      by_cases inside : char.utf8Size ≤ offset
      · rw [byteLength_cons] at within
        obtain ⟨whole, rest, rfl, reached, within, beyond⟩ :=
          @ih (offset - char.utf8Size) (by omega)
        refine ⟨char :: whole, rest, rfl, ?_, ?_, ?_⟩
        · rw [byteLength_cons]
          omega
        · rw [byteLength_cons]
          omega
        · intro next head
          have further := beyond next head
          rw [byteLength_cons]
          omega
      · refine ⟨[], char :: chars, rfl, Nat.zero_le _, within, ?_⟩
        intro next head
        rw [List.head?_cons, Option.mem_some_iff] at head
        rw [byteLength_nil, ← head]
        omega

namespace IsCut

theorem cutAt_eq (cut : IsCut chars offset whole rest) :
    cutAt chars offset = (whole, offset - byteLength whole) := by
  obtain ⟨rfl, reached, within, beyond⟩ := cut
  have split := cutAt_append whole rest (offset - byteLength whole)
  rw [Nat.add_sub_cancel' reached] at split
  rw [split]
  cases rest with
  | nil =>
      rw [List.append_nil] at within
      simp [cutAt, Nat.sub_eq_zero_of_le within]
  | cons char rest =>
      have further := beyond char rfl
      rw [cutAt, if_neg (by omega), List.append_nil]

/-- An offset falls between two characters exactly if what is cut off ends there. -/
theorem isValid_iff {text : String} (cut : IsCut text.toList offset whole rest) :
    String.Pos.Raw.IsValid text ⟨offset⟩ ↔ byteLength whole = offset := by
  rw [isValid_iff_exists_front]
  constructor
  · rintro ⟨front, back, shape, rfl⟩
    have same := cut.cutAt_eq
    rw [shape, cutAt_boundary, Prod.mk.injEq] at same
    rw [same.1]
  · intro bytes
    exact ⟨whole, rest, cut.shape, bytes.symm⟩

theorem boundary (whole rest : List Char) :
    IsCut (whole ++ rest) (byteLength whole) whole rest := by
  refine ⟨rfl, Nat.le_refl _, ?_, ?_⟩
  · rw [byteLength_append]
    exact Nat.le_add_right _ _
  · intro char _
    exact Nat.lt_add_of_pos_right char.utf8Size_pos

/-- What is cut stays cut between other characters. -/
theorem between (cut : IsCut chars offset whole rest) (front back : List Char) :
    IsCut (front ++ (chars ++ back)) (byteLength front + offset) (front ++ whole)
      (rest ++ back) := by
  obtain ⟨rfl, reached, within, beyond⟩ := cut
  simp only [byteLength_append] at within
  refine ⟨by simp, ?_, ?_, ?_⟩
  · rw [byteLength_append]
    omega
  · simp only [byteLength_append]
    omega
  · intro char head
    rw [byteLength_append]
    cases rest with
    | nil =>
        have wide := char.utf8Size_pos
        rw [byteLength_nil] at within
        omega
    | cons first rest =>
        have further := beyond char head
        omega

end IsCut

/-- Characters end with some of a line, which may be nothing. -/
theorem exists_lastLine (chars : List Char) :
    ∃ front line, chars = front ++ line ∧ (front = [] ∨ front.getLast? = some '\n') ∧
      '\n' ∉ line := by
  refine ⟨(chars.reverse.dropWhile (· != '\n')).reverse,
    (chars.reverse.takeWhile (· != '\n')).reverse, ?_, ?_, ?_⟩
  · rw [← List.reverse_append, List.takeWhile_append_dropWhile, List.reverse_reverse]
  · rw [List.getLast?_reverse, List.reverse_eq_nil_iff]
    have stops := List.head?_dropWhile_not (· != '\n') chars.reverse
    cases found : chars.reverse.dropWhile (· != '\n') with
    | nil => exact .inl rfl
    | cons char others =>
        rw [found] at stops
        right
        simpa using stops
  · intro member
    have accepted := List.mem_takeWhile_imp (List.mem_reverse.1 member)
    simp at accepted

/-! ## Search -/

section Search

variable {Item : Type} {accepts : Item → Bool} {accepted refused : List Item}

/-- If accepted items come before the others, the search keeps the place between them in
its bounds. -/
theorem partitionWithin_append (every : ∀ item ∈ accepted, accepts item = true)
    (none : ∀ item ∈ refused, accepts item = false) {low high : Nat}
    (within : high ≤ (accepted ++ refused).length) (before : low ≤ accepted.length)
    (behind : accepted.length ≤ high) :
    partitionWithin accepts (accepted ++ refused) low high within = accepted.length := by
  fun_induction partitionWithin accepts (accepted ++ refused) low high within with
  | case1 low high within wide middle inside accepts' ih =>
      apply ih _ behind
      by_contra outside
      have member : (accepted ++ refused)[middle] ∈ refused := by
        rw [List.getElem_append_right (by omega)]
        exact List.getElem_mem _
      rw [none _ member] at accepts'
      cases accepts'
  | case2 low high within wide middle inside refuses ih =>
      apply ih before
      by_contra outside
      have member : (accepted ++ refused)[middle] ∈ accepted := by
        rw [List.getElem_append_left (by omega)]
        exact List.getElem_mem _
      exact refuses (every _ member)
  | case3 low high within narrow => exact Nat.le_antisymm before (by omega)

theorem partitionPoint_append (every : ∀ item ∈ accepted, accepts item = true)
    (none : ∀ item ∈ refused, accepts item = false) :
    partitionPoint accepts (accepted ++ refused) = accepted.length :=
  partitionWithin_append every none _ (Nat.zero_le _) (by simp)

end Search

/-! ## Beginnings of lines -/

namespace Resolver

theorem startsAfterFeeds_append (start : Nat) (front back : List Char) :
    startsAfterFeeds start (front ++ back) =
      startsAfterFeeds start front ++ startsAfterFeeds (start + byteLength front) back := by
  induction front generalizing start with
  | nil => rfl
  | cons char front ih =>
      simp only [List.cons_append, startsAfterFeeds, ih, byteLength_cons, Nat.add_assoc]
      split
      · rfl
      · rfl

/-- A line begins after every line feed, and nowhere else. -/
theorem mem_startsAfterFeeds {begins : Nat} :
    begins ∈ startsAfterFeeds start chars ↔
      ∃ front back, chars = front ++ '\n' :: back ∧ begins = start + byteLength front + 1 := by
  constructor
  · intro member
    induction chars generalizing start with
    | nil => cases member
    | cons char chars ih =>
        rw [startsAfterFeeds] at member
        by_cases feed : char = '\n'
        · rw [if_pos feed, List.mem_cons] at member
          subst feed
          rcases member with rfl | later
          · exact ⟨[], chars, rfl, rfl⟩
          · obtain ⟨front, back, rfl, rfl⟩ := ih later
            refine ⟨'\n' :: front, back, rfl, ?_⟩
            rw [byteLength_cons, Nat.add_assoc start]
        · rw [if_neg feed] at member
          obtain ⟨front, back, rfl, rfl⟩ := ih member
          refine ⟨char :: front, back, rfl, ?_⟩
          rw [byteLength_cons, Nat.add_assoc start]
  · rintro ⟨front, back, rfl, rfl⟩
    rw [startsAfterFeeds_append, List.mem_append]
    exact .inr List.mem_cons_self

theorem length_startsAfterFeeds (start : Nat) (chars : List Char) :
    (startsAfterFeeds start chars).length = chars.count '\n' := by
  induction chars generalizing start with
  | nil => rfl
  | cons char chars ih =>
      rw [startsAfterFeeds, List.count_cons]
      by_cases feed : char = '\n'
      · simp [feed, ih]
      · simp [feed, ih]

/-- What ends with a line feed is where the last of the lines begins that are known by
then. -/
theorem lineStart_of_ends (ends : front = [] ∨ front.getLast? = some '\n') :
    (0 :: startsAfterFeeds 0 front)[front.count '\n']? = some (byteLength front) := by
  rcases List.eq_nil_or_concat front with rfl | ⟨init, last, rfl⟩
  · rfl
  · rw [List.concat_eq_append] at ends ⊢
    have feed : last = '\n' := by simpa using ends
    subst feed
    have beginnings : startsAfterFeeds 0 (init ++ ['\n']) =
        startsAfterFeeds 0 init ++ [byteLength (init ++ ['\n'])] := by
      simp [startsAfterFeeds_append, startsAfterFeeds]
    have place : (init ++ ['\n']).count '\n' = (0 :: startsAfterFeeds 0 init).length := by
      rw [List.length_cons, length_startsAfterFeeds, List.count_append]
      rfl
    rw [beginnings, place, ← List.cons_append, List.getElem?_append_right (Nat.le_refl _)]
    simp

/-! ## Resolving -/

theorem resolve?_min (text : String) (offset : Nat) :
    (ofText text).resolve? (min offset (byteLength text.toList)) =
      (ofText text).resolve? offset := by
  have clamped : min (min offset (byteLength text.toList)) (byteLength text.toList) =
      min offset (byteLength text.toList) := by
    rw [Nat.min_assoc, Nat.min_self]
  rw [resolve?, resolve?, ofText, clamped]

/-- A line is counted if it begins at or before the offset. -/
theorem partitionPoint_lineStarts (cut : IsCut chars offset (front ++ line) rest)
    (noFeed : '\n' ∉ line) :
    partitionPoint (· ≤ offset) (0 :: startsAfterFeeds 0 chars) = front.count '\n' + 1 := by
  obtain ⟨rfl, reached, _, beyond⟩ := cut
  have none : startsAfterFeeds (byteLength front) line = [] := by
    rw [← List.length_eq_zero_iff, length_startsAfterFeeds, List.count_eq_zero]
    exact noFeed
  have parts : 0 :: startsAfterFeeds 0 (front ++ line ++ rest) =
      (0 :: startsAfterFeeds 0 front) ++ startsAfterFeeds (byteLength (front ++ line)) rest := by
    rw [startsAfterFeeds_append, startsAfterFeeds_append, Nat.zero_add, none, List.append_nil,
      Nat.zero_add, List.cons_append]
  rw [parts, partitionPoint_append, List.length_cons, length_startsAfterFeeds]
  · intro begins member
    rw [byteLength_append] at reached
    rcases List.mem_cons.1 member with rfl | member
    · simp
    · obtain ⟨before, after, rfl, rfl⟩ := mem_startsAfterFeeds.1 member
      rw [byteLength_append, byteLength_cons] at reached
      have wide := '\n'.utf8Size_pos
      rw [decide_eq_true_eq]
      omega
  · intro begins member
    obtain ⟨before, after, rfl, rfl⟩ := mem_startsAfterFeeds.1 member
    rw [decide_eq_false_iff_not]
    cases before with
    | nil =>
        have further : offset < byteLength (front ++ line) + 1 := beyond '\n' rfl
        rw [byteLength_nil]
        omega
    | cons char before =>
        have further := beyond char rfl
        rw [byteLength_cons]
        omega

variable {text : String}

theorem slice?_of_isCut (cut : IsCut chars offset (front ++ line) rest) :
    slice? chars (byteLength front) offset =
      if byteLength (front ++ line) = offset then some line else none := by
  have reached := cut.reached
  have first : cutAt chars (byteLength front) = (front, 0) := by
    rw [cut.shape, List.append_assoc]
    exact cutAt_boundary front _
  simp only [slice?, first, cut.cutAt_eq]
  rw [byteLength_append] at reached ⊢
  by_cases boundary : byteLength front + byteLength line = offset
  · rw [if_pos boundary, if_pos ⟨by omega, cut.within, trivial, by omega⟩, List.drop_left]
  · rw [if_neg boundary, if_neg (by omega)]

/-- Every offset is resolved.  The line number counts the line feeds before the offset, and
the column the characters behind the last of them, or the bytes if the offset is inside
a character. -/
theorem resolve?_of_isCut (cut : IsCut text.toList offset (front ++ line) rest)
    (ends : front = [] ∨ front.getLast? = some '\n') (noFeed : '\n' ∉ line) :
    (ofText text).resolve? offset =
      some ⟨front.count '\n' + 1,
        (if byteLength (front ++ line) = offset then line.length
          else offset - byteLength front) + 1⟩ := by
  have reached := cut.reached
  rw [byteLength_append] at reached
  have clamped : min offset (byteLength text.toList) = offset := Nat.min_eq_left cut.within
  have place : difference? (front.count '\n' + 1) 1 = some (front.count '\n') := by
    simp [difference?]
  have lineStart : (0 :: startsAfterFeeds 0 text.toList)[front.count '\n']? =
      some (byteLength front) := by
    have known := lineStart_of_ends ends
    have inside := (List.getElem?_eq_some_iff.1 known).1
    rw [cut.shape, List.append_assoc, startsAfterFeeds_append, ← List.cons_append,
      List.getElem?_append_left inside, known]
  have bytes : difference? offset (byteLength front) = some (offset - byteLength front) := by
    rw [difference?, if_pos (by omega)]
  simp only [resolve?, ofText, clamped, partitionPoint_lineStarts cut noFeed, place, lineStart,
    bytes, slice?_of_isCut cut, Option.bind_eq_bind, Option.bind_some, Option.pure_def]
  split
  · rfl
  · rfl

theorem resolve?_boundary (shape : text.toList = front ++ (line ++ rest))
    (ends : front = [] ∨ front.getLast? = some '\n') (noFeed : '\n' ∉ line) :
    (ofText text).resolve? (byteLength (front ++ line)) =
      some ⟨front.count '\n' + 1, line.length + 1⟩ := by
  rw [← List.append_assoc] at shape
  have cut : IsCut text.toList (byteLength (front ++ line)) (front ++ line) rest := by
    rw [shape]
    exact .boundary _ _
  rw [resolve?_of_isCut cut ends noFeed, if_pos rfl]

end Resolver

namespace Position

variable {text : String}

theorem ofOffset_of_isCut (cut : IsCut text.toList offset (front ++ line) rest)
    (ends : front = [] ∨ front.getLast? = some '\n') (noFeed : '\n' ∉ line) :
    ofOffset text offset =
      ⟨front.count '\n' + 1,
        (if byteLength (front ++ line) = offset then line.length
          else offset - byteLength front) + 1⟩ := by
  rw [ofOffset, Resolver.resolve?_of_isCut cut ends noFeed, Option.getD_some]

end Position

/-- A position comes before another one: on an earlier line, or further to the left on
the same one. -/
def Position.Precedes (position later : Position) : Prop :=
  position.line < later.line ∨ position.line = later.line ∧ position.column < later.column

/-- The places between characters have positions in their own order. -/
theorem Resolver.precedes_of_lt {text : String} {first later : Nat}
    (firstValid : String.Pos.Raw.IsValid text ⟨first⟩)
    (laterValid : String.Pos.Raw.IsValid text ⟨later⟩) (less : first < later) :
    ∃ position next, (ofText text).resolve? first = some position ∧
      (ofText text).resolve? later = some next ∧ position.Precedes next := by
  obtain ⟨whole, rest, shape, rfl⟩ := isValid_iff_exists_front.1 firstValid
  obtain ⟨further, back, shape', rfl⟩ := isValid_iff_exists_front.1 laterValid
  rcases List.append_eq_append_iff.1 (shape.symm.trans shape') with
    ⟨between, rfl, rfl⟩ | ⟨between, rfl, _⟩
  · obtain ⟨front, line, rfl, ends, noFeed⟩ := exists_lastLine whole
    obtain ⟨lines, last, rfl, ends', noFeed'⟩ := exists_lastLine between
    have here := resolve?_boundary (by rw [shape, List.append_assoc]) ends noFeed
    rcases ends' with rfl | final
    · -- What is between the places goes on with the line of the first one.
      have goesOn : text.toList = front ++ ((line ++ last) ++ back) := by
        simpa using shape
      have there := resolve?_boundary goesOn ends (by simp [noFeed, noFeed'])
      rw [← List.append_assoc] at there
      refine ⟨_, _, here, there, .inr ⟨rfl, ?_⟩⟩
      have wide : last ≠ [] := by
        rintro rfl
        simp at less
      have longer := List.length_pos_iff.2 wide
      simp only [List.length_append]
      omega
    · have begins : text.toList = (front ++ line ++ lines) ++ (last ++ back) := by
        simpa using shape
      have ended : (front ++ line ++ lines).getLast? = some '\n' := by
        rw [List.getLast?_append, final, Option.some_or]
      have there := resolve?_boundary begins (.inr ended) noFeed'
      rw [List.append_assoc (front ++ line)] at there
      refine ⟨_, _, here, there, .inl ?_⟩
      have feeds := List.count_pos_iff.2 (List.mem_of_getLast? final)
      simp only [List.count_append]
      omega
  · rw [byteLength_append] at less
    omega

/-- A resolver finds the position of every offset, where an offset past the end of the text
stands for its end.  The line number is one more than the line feeds before the offset.
The column is one more than the characters behind the last of them, or than the bytes if
the offset is inside a character.  Different places between characters have different
positions, in their own order. -/
theorem resolve_exact_and_ordered (text : String) :
    (∀ offset, ∃ front line rest,
      IsCut text.toList (min offset text.utf8ByteSize) (front ++ line) rest ∧
        (front = [] ∨ front.getLast? = some '\n') ∧ '\n' ∉ line ∧
        (Resolver.ofText text).resolve? offset =
          some ⟨(front ++ line).count '\n' + 1,
            (if String.Pos.Raw.IsValid text ⟨min offset text.utf8ByteSize⟩ then line.length
              else min offset text.utf8ByteSize - byteLength front) + 1⟩) ∧
    ∀ first later, String.Pos.Raw.IsValid text ⟨first⟩ → String.Pos.Raw.IsValid text ⟨later⟩ →
      first < later →
        ∃ position next, (Resolver.ofText text).resolve? first = some position ∧
          (Resolver.ofText text).resolve? later = some next ∧ position.Precedes next := by
  refine ⟨?_, fun first later => Resolver.precedes_of_lt⟩
  intro offset
  rw [← byteLength_toList, ← Resolver.resolve?_min]
  obtain ⟨whole, rest, cut⟩ := exists_isCut (Nat.min_le_right offset (byteLength text.toList))
  obtain ⟨front, line, rfl, ends, noFeed⟩ := exists_lastLine whole
  refine ⟨front, line, rest, cut, ends, noFeed, ?_⟩
  rw [Resolver.resolve?_of_isCut cut ends noFeed, List.count_append, List.count_eq_zero.2 noFeed,
    Nat.add_zero]
  simp only [cut.isValid_iff]

/-- A line with a character of two bytes, an empty line, and a line that is not ended. -/
def accentedLines : String := "é\n\nab"

/-- The end of its first line comes before the beginning of its third one. -/
theorem accentedLines_resolved :
    String.Pos.Raw.IsValid accentedLines ⟨2⟩ ∧ String.Pos.Raw.IsValid accentedLines ⟨4⟩ ∧
      (Resolver.ofText accentedLines).resolve? 2 = some ⟨1, 2⟩ ∧
      (Resolver.ofText accentedLines).resolve? 4 = some ⟨3, 1⟩ ∧
      Position.Precedes ⟨1, 2⟩ ⟨3, 1⟩ := by
  have firstValid : String.Pos.Raw.IsValid accentedLines ⟨2⟩ := by decide +kernel
  have laterValid : String.Pos.Raw.IsValid accentedLines ⟨4⟩ := by decide +kernel
  have first : (Resolver.ofText accentedLines).resolve? 2 = some ⟨1, 2⟩ := by decide +kernel
  have later : (Resolver.ofText accentedLines).resolve? 4 = some ⟨3, 1⟩ := by decide +kernel
  obtain ⟨_, _, here, there, precedes⟩ :=
    (resolve_exact_and_ordered accentedLines).2 2 4 firstValid laterValid (by decide)
  cases first.symm.trans here
  cases later.symm.trans there
  exact ⟨firstValid, laterValid, first, later, precedes⟩

end Lookahead.Text
