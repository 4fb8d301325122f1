import Lookahead.Report

/-!
# The order of rows

Rows are put in order by the written form of their key, and rows of one form by the
members of their sets.  Both comparisons look at a text first and at the rest only if
the texts are the same.  No two different rows are equal in this order, so the rows of
SUFFIXES depend only on which rows there are.
-/

namespace Lookahead.Report

variable {first second third : String} {p q r : Prop}

/-! ## Texts first -/

theorem lt_or_eq_or_lt (first second : String) :
    first < second ∨ first = second ∨ second < first := by
  by_cases less : first < second
  · exact .inl less
  · by_cases greater : second < first
    · exact .inr (.inr greater)
    · exact .inr (.inl (String.le_antisymm (String.not_lt.1 greater) (String.not_lt.1 less)))

theorem textFirst_trans (left : first < second ∨ first = second ∧ p)
    (right : second < third ∨ second = third ∧ q) (rest : p → q → r) :
    first < third ∨ first = third ∧ r := by
  rcases left with less | ⟨rfl, holds⟩
  · rcases right with less' | ⟨rfl, _⟩
    · exact .inl (String.lt_trans less less')
    · exact .inl less
  · exact right.imp_right fun later => ⟨later.1, rest holds later.2⟩

theorem textFirst_total (rest : p ∨ q) :
    (first < second ∨ first = second ∧ p) ∨ (second < first ∨ second = first ∧ q) := by
  rcases lt_or_eq_or_lt first second with less | rfl | greater
  · exact .inl (.inl less)
  · exact rest.imp (fun holds => .inr ⟨rfl, holds⟩) fun holds => .inr ⟨rfl, holds⟩
  · exact .inr (.inl greater)

theorem textFirst_antisymm (left : first < second ∨ first = second ∧ p)
    (right : second < first ∨ second = first ∧ q) : first = second ∧ p ∧ q := by
  rcases left with less | ⟨rfl, holds⟩
  · rcases right with greater | ⟨rfl, _⟩
    · exact absurd greater (String.lt_asymm less)
    · exact absurd less (String.lt_irrefl _)
  · rcases right with less | ⟨_, holds'⟩
    · exact absurd less (String.lt_irrefl _)
    · exact ⟨rfl, holds, holds'⟩

/-! ## Members of sets -/

variable {lefts middles rights : List Terminal}

theorem membersLe_cons_iff {left right : Terminal} :
    membersLe (left :: lefts) (right :: rights) = true ↔
      left < right ∨ left = right ∧ membersLe lefts rights = true := by
  simp [membersLe]

theorem membersLe_trans (before : membersLe lefts middles = true)
    (after : membersLe middles rights = true) : membersLe lefts rights = true := by
  induction lefts generalizing middles rights with
  | nil => rfl
  | cons left lefts ih =>
      cases middles with
      | nil => cases before
      | cons middle middles =>
          cases rights with
          | nil => cases after
          | cons right rights =>
              rw [membersLe_cons_iff] at before after ⊢
              exact textFirst_trans before after ih

theorem membersLe_total (lefts rights : List Terminal) :
    membersLe lefts rights = true ∨ membersLe rights lefts = true := by
  induction lefts generalizing rights with
  | nil => exact .inl rfl
  | cons left lefts ih =>
      cases rights with
      | nil => exact .inr rfl
      | cons right rights =>
          rw [membersLe_cons_iff, membersLe_cons_iff]
          exact textFirst_total (ih rights)

theorem membersLe_antisymm (before : membersLe lefts rights = true)
    (after : membersLe rights lefts = true) : lefts = rights := by
  induction lefts generalizing rights with
  | nil =>
      cases rights with
      | nil => rfl
      | cons right rights => cases after
  | cons left lefts ih =>
      cases rights with
      | nil => cases before
      | cons right rights =>
          rw [membersLe_cons_iff] at before after
          obtain ⟨rfl, before, after⟩ := textFirst_antisymm before after
          rw [ih before after]

/-! ## Rows -/

namespace Row

variable {left middle right : Row}

theorem le_iff :
    le left right = true ↔
      left.1 < right.1 ∨ left.1 = right.1 ∧ membersLe left.2.members right.2.members = true := by
  simp [le]

theorem le_trans (before : le left middle = true) (after : le middle right = true) :
    le left right = true := by
  rw [le_iff] at before after ⊢
  exact textFirst_trans before after membersLe_trans

theorem le_total (left right : Row) : le left right = true ∨ le right left = true := by
  rw [le_iff, le_iff]
  exact textFirst_total (membersLe_total _ _)

/-- Different rows are never equal in the order. -/
theorem le_antisymm (before : le left right = true) (after : le right left = true) :
    left = right := by
  obtain ⟨key, set⟩ := left
  obtain ⟨other, set'⟩ := right
  rw [le_iff] at before after
  obtain ⟨rfl, before, after⟩ := textFirst_antisymm before after
  obtain ⟨members, ascending⟩ := set
  obtain ⟨members', ascending'⟩ := set'
  obtain rfl := membersLe_antisymm before after
  rfl

end Row

/-! ## Rows in order -/

variable {rows others : List Row}

theorem pairwise_mergeSort (rows : List Row) :
    (rows.mergeSort Row.le).Pairwise fun row later => Row.le row later = true := by
  apply List.pairwise_mergeSort
  · intro left middle right
    exact Row.le_trans
  · intro left right
    rw [Bool.or_eq_true]
    exact Row.le_total left right

/-- The same rows are put in the same order. -/
theorem mergeSort_eq_of_perm (same : rows.Perm others) :
    rows.mergeSort Row.le = others.mergeSort Row.le := by
  have sameSorted : (rows.mergeSort Row.le).Perm (others.mergeSort Row.le) :=
    ((List.mergeSort_perm rows _).trans same).trans (List.mergeSort_perm others _).symm
  apply List.Perm.eq_of_pairwise _ (pairwise_mergeSort rows) (pairwise_mergeSort others) sameSorted
  intro left right _ _
  exact Row.le_antisymm

/-- If no two rows have the same key, the keys ascend. -/
theorem pairwise_keys_mergeSort (distinct : (rows.map Prod.fst).Nodup) :
    ((rows.mergeSort Row.le).map Prod.fst).Pairwise (· < ·) := by
  have apart : ((rows.mergeSort Row.le).map Prod.fst).Nodup :=
    ((List.mergeSort_perm rows _).map Prod.fst).nodup_iff.2 distinct
  rw [List.pairwise_map]
  refine ((pairwise_mergeSort rows).and (List.pairwise_map.1 apart)).imp ?_
  intro row later ordered
  rcases Row.le_iff.1 ordered.1 with less | same
  · exact less
  · exact absurd same.1 ordered.2

end Lookahead.Report
