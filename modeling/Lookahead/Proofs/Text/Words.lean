import Mathlib.Data.List.TakeWhile

/-!
# Words in a row

A run of characters is cut off by the first character of another kind.  Words that
can be told apart wherever a space or nothing follows are known, as a whole sequence,
from what they are written as with single spaces between them; lines are known from
the text that they make up.
-/

namespace Lookahead.Text

/-! ## Runs -/

section Runs

variable {accepts : Char → Bool} {run other rest back : List Char}

/-- The longest run of accepted characters is cut off exactly. -/
theorem cut_run (inside : ∀ char ∈ run, accepts char = true)
    (outside : ∀ char, rest.head? = some char → accepts char = false) :
    (run ++ rest).takeWhile accepts = run ∧ (run ++ rest).dropWhile accepts = rest := by
  rw [List.takeWhile_append_of_pos inside, List.dropWhile_append_of_pos inside]
  cases rest with
  | nil => simp
  | cons char rest => simp [outside char rfl]

/-- Two runs that are cut off alike are equal. -/
theorem run_append_inj (accepts : Char → Bool) (inside : ∀ char ∈ run, accepts char = true)
    (otherInside : ∀ char ∈ other, accepts char = true)
    (outside : ∀ char, rest.head? = some char → accepts char = false)
    (backOutside : ∀ char, back.head? = some char → accepts char = false)
    (same : run ++ rest = other ++ back) : run = other ∧ rest = back := by
  have first := cut_run inside outside
  have second := cut_run otherInside backOutside
  rw [same] at first
  exact ⟨first.1.symm.trans second.1, first.2.symm.trans second.2⟩

/-- What stands before the first of a mark is known. -/
theorem append_mark_inj {mark : Char} (absent : mark ∉ run) (otherAbsent : mark ∉ other)
    (same : run ++ mark :: rest = other ++ mark :: back) : run = other ∧ rest = back := by
  have inside {chars : List Char} (absent : mark ∉ chars) :
      ∀ char ∈ chars, (char != mark) = true := by
    intro char member
    simpa using ne_of_mem_of_not_mem member absent
  have parts := run_append_inj (· != mark) (inside absent) (inside otherAbsent)
    (by simp) (by simp) same
  exact ⟨parts.1, (List.cons.inj parts.2).2⟩

end Runs

/-! ## Words -/

/-- Nothing follows, or a space. -/
def AtGap (rest : List Char) : Prop :=
  ∀ char, rest.head? = some char → char = ' '

theorem atGap_nil : AtGap [] := by
  simp [AtGap]

theorem atGap_space (rest : List Char) : AtGap (' ' :: rest) := by
  simp [AtGap]

section Words

variable {Item : Type} {write : Item → String} {valid : Item → Prop} {lefts rights : List Item}

/-- Valid items are told apart, and so is what comes after them, by what they are
written as in front of a gap. -/
def ToldApart (write : Item → String) (valid : Item → Prop) : Prop :=
  ∀ left right, valid left → valid right → ∀ rest back, AtGap rest → AtGap back →
    (write left).toList ++ rest = (write right).toList ++ back → left = right ∧ rest = back

/-- Items, each after a space. -/
def spaced (write : Item → String) (items : List Item) : List Char :=
  items.flatMap fun item => ' ' :: (write item).toList

theorem atGap_spaced (items : List Item) : AtGap (spaced write items) := by
  cases items with
  | nil => exact atGap_nil
  | cons item items => exact atGap_space _

theorem ToldApart.spaced_inj (apart : ToldApart write valid) (leftsValid : ∀ item ∈ lefts, valid item)
    (rightsValid : ∀ item ∈ rights, valid item) (same : spaced write lefts = spaced write rights) :
    lefts = rights := by
  induction lefts generalizing rights with
  | nil =>
      cases rights with
      | nil => rfl
      | cons right rights => simp [spaced] at same
  | cons left lefts ih =>
      cases rights with
      | nil => simp [spaced] at same
      | cons right rights =>
          rw [List.forall_mem_cons] at leftsValid rightsValid
          have words : (write left).toList ++ spaced write lefts =
              (write right).toList ++ spaced write rights := by
            simpa [spaced] using same
          have parts := apart left right leftsValid.1 rightsValid.1 _ _ (atGap_spaced lefts)
            (atGap_spaced rights) words
          rw [parts.1, ih leftsValid.2 rightsValid.2 parts.2]

/-- With a space in front, words between spaces are words after spaces. -/
theorem cons_intercalate (write : Item → String) (inhabited : lefts ≠ []) :
    ' ' :: (" ".intercalate (lefts.map write)).toList = spaced write lefts := by
  induction lefts with
  | nil => exact absurd rfl inhabited
  | cons left lefts ih =>
      cases lefts with
      | nil => simp [spaced]
      | cons next lefts =>
          have later := ih (List.cons_ne_nil next lefts)
          rw [List.map_cons] at later
          rw [List.map_cons, List.map_cons, String.intercalate_cons_cons, String.toList_append,
            String.toList_append, List.append_assoc, spaced, List.flatMap_cons]
          exact congrArg (fun more => ' ' :: ((write left).toList ++ more)) later

/-- Words between single spaces are known from the text that they make up. -/
theorem ToldApart.intercalate_inj (apart : ToldApart write valid)
    (visible : ∀ item, valid item → write item ≠ "") (leftsValid : ∀ item ∈ lefts, valid item)
    (rightsValid : ∀ item ∈ rights, valid item)
    (same : " ".intercalate (lefts.map write) = " ".intercalate (rights.map write)) :
    lefts = rights := by
  -- The empty text is no words after spaces, so no words are treated apart.
  have empty {items : List Item} (itemsValid : ∀ item ∈ items, valid item)
      (nothing : " ".intercalate (items.map write) = "") : items = [] := by
    cases items with
    | nil => rfl
    | cons item items =>
        have words := cons_intercalate write (List.cons_ne_nil item items)
        rw [nothing, spaced, List.flatMap_cons] at words
        simp only [String.toList_empty, List.cons_append, List.cons.injEq, true_and] at words
        have unseen := String.toList_eq_nil_iff.1 (List.append_eq_nil_iff.1 words.symm).1
        exact absurd unseen (visible item (itemsValid item List.mem_cons_self))
  by_cases noLefts : lefts = []
  · rw [noLefts] at same ⊢
    exact (empty rightsValid same.symm).symm
  · by_cases noRights : rights = []
    · rw [noRights] at same ⊢
      exact empty leftsValid same
    · apply apart.spaced_inj leftsValid rightsValid
      rw [← cons_intercalate write noLefts, ← cons_intercalate write noRights, same]

/-- Between single spaces there is nothing but the words. -/
theorem not_mem_intercalate {char : Char} (notSpace : char ≠ ' ')
    (absent : ∀ item ∈ lefts, char ∉ (write item).toList) :
    char ∉ (" ".intercalate (lefts.map write)).toList := by
  by_cases inhabited : lefts = []
  · simp [inhabited]
  · intro member
    have inWords := List.mem_cons_of_mem ' ' member
    rw [cons_intercalate write inhabited, spaced, List.mem_flatMap] at inWords
    rcases inWords with ⟨item, inItems, inWord⟩
    cases List.mem_cons.1 inWord with
    | inl space => exact notSpace space
    | inr inside => exact absent item inItems inside

end Words

/-! ## Lines -/

/-- Lines without line feeds are got back by cutting their text at line feeds. -/
theorem splitOn_intercalate_newline {lines : List String}
    (single : ∀ line ∈ lines, '\n' ∉ line.toList) (inhabited : lines ≠ []) :
    ("\n".intercalate lines).toList.splitOn '\n' = lines.map String.toList := by
  rw [String.toList_intercalate]
  apply List.splitOn_intercalate
  · simpa using single
  · simpa using inhabited

/-- Lines without line feeds are known from the text that they make up. -/
theorem intercalate_newline_inj {lefts rights : List String}
    (leftsSingle : ∀ line ∈ lefts, '\n' ∉ line.toList)
    (rightsSingle : ∀ line ∈ rights, '\n' ∉ line.toList)
    (leftsInhabited : lefts ≠ []) (rightsInhabited : rights ≠ [])
    (same : "\n".intercalate lefts = "\n".intercalate rights) : lefts = rights := by
  have characters := splitOn_intercalate_newline leftsSingle leftsInhabited
  rw [same, splitOn_intercalate_newline rightsSingle rightsInhabited] at characters
  exact (List.map_inj_right fun _ _ => String.ext).1 characters.symm

end Lookahead.Text
