import Lookahead.Proofs.Report.Lines
import Lookahead.Report

/-!
# Reports can be read back

The report on FIRST and FOLLOW is a text of lines, one for each row between its
titles.  A row is a name, which ends at the first space, and terminals that are told
apart from the front on.  So two reports are the same text exactly if they list the
same names with the same sets.
-/

namespace Lookahead

variable {escaping : Text.Escaping}

/-! ## Terminals and sets -/

theorem Terminal.toldApart_renderWith (usual : escaping.IsUsual) :
    Text.ToldApart (Terminal.renderWith escaping) fun _ => True := by
  intro left right _ _ rest back atGap atGap' same
  have parts := Symbol.toldApart_renderWith usual (.terminal left) (.terminal right) trivial trivial
    rest back atGap atGap' same
  exact ⟨Symbol.terminal.inj parts.1, parts.2⟩

namespace TerminalSet

variable {left right : TerminalSet}

theorem renderWith_inj (usual : escaping.IsUsual)
    (same : left.renderWith escaping = right.renderWith escaping) : left = right := by
  have visible (terminal : Terminal) (_ : True) : terminal.renderWith escaping ≠ "" :=
    Symbol.renderWith_ne_empty usual (.terminal terminal) trivial
  have members := (Terminal.toldApart_renderWith usual).intercalate_inj visible
    (fun _ _ => trivial) (fun _ _ => trivial) same
  cases left
  cases right
  cases members
  rfl

theorem not_mem_lineFeed (usual : escaping.IsUsual) (set : TerminalSet) :
    '\n' ∉ (set.renderWith escaping).toList := by
  apply Text.not_mem_intercalate (by decide)
  intro terminal _
  have showable : Symbol.IsShowable (.terminal terminal) := trivial
  exact (Symbol.shown_renderWith usual showable).not_mem_lineFeed

end TerminalSet

namespace Report

/-! ## Rows -/

/-- The key of a row is a name as in a grammar file. -/
def Row.IsNamed (row : Row) : Prop :=
  (Source.Token.nonterminal row.1).IsSpelled

theorem Row.toList_renderWith (row : Row) :
    (row.renderWith escaping).toList =
      ' ' :: ' ' :: ((row.1.toList ++ [':']) ++ ' ' :: (row.2.renderWith escaping).toList) := by
  simp [Row.renderWith]

theorem Row.renderWith_inj (usual : escaping.IsUsual) {left right : Row} (leftNamed : left.IsNamed)
    (rightNamed : right.IsNamed) (same : left.renderWith escaping = right.renderWith escaping) :
    left = right := by
  have noSpace {row : Row} (named : row.IsNamed) : ' ' ∉ row.1.toList ++ [':'] := by
    simp only [List.mem_append, List.mem_singleton, not_or]
    exact ⟨fun member => absurd (named.2 ' ' member) (by decide), by decide⟩
  have characters := congrArg String.toList same
  rw [toList_renderWith, toList_renderWith, List.cons.injEq, List.cons.injEq] at characters
  have parts := Text.append_mark_inj (noSpace leftNamed) (noSpace rightNamed) characters.2.2
  have names := String.ext (List.append_cancel_right parts.1)
  have sets := TerminalSet.renderWith_inj usual (String.ext parts.2)
  exact Prod.ext names sets

/-- A row is on one line if its key is. -/
theorem Row.not_mem_lineFeed_of_key (usual : escaping.IsUsual) {row : Row}
    (single : '\n' ∉ row.1.toList) : '\n' ∉ (row.renderWith escaping).toList := by
  rw [toList_renderWith]
  simp [single, row.2.not_mem_lineFeed usual]

theorem Row.not_mem_lineFeed (usual : escaping.IsUsual) {row : Row} (named : row.IsNamed) :
    '\n' ∉ (row.renderWith escaping).toList :=
  not_mem_lineFeed_of_key usual (Source.Token.IsSpelled.not_mem_lineFeed named)

theorem map_renderWith_inj (usual : escaping.IsUsual) {lefts rights : List Row}
    (leftsNamed : ∀ row ∈ lefts, row.IsNamed) (rightsNamed : ∀ row ∈ rights, row.IsNamed)
    (same : lefts.map (Row.renderWith escaping) = rights.map (Row.renderWith escaping)) :
    lefts = rights := by
  induction lefts generalizing rights with
  | nil => exact (List.map_eq_nil_iff.1 same.symm).symm
  | cons left lefts ih =>
      cases rights with
      | nil => cases same
      | cons right rights =>
          rw [List.forall_mem_cons] at leftsNamed rightsNamed
          rw [List.map_cons, List.map_cons, List.cons.injEq] at same
          rw [Row.renderWith_inj usual leftsNamed.1 rightsNamed.1 same.1,
            ih leftsNamed.2 rightsNamed.2 same.2]

/-! ## The lines of a report -/

/-- The lines of a section, with what stands after its last line feed. -/
def sectionLines (escaping : Text.Escaping) (title : String) (rows : List Row) : List String :=
  title :: rows.map (Row.renderWith escaping) ++ [""]

/-- The lines of a section if it is chosen. -/
def chosenLines (escaping : Text.Escaping) (chosen : Bool) (title : String) (rows : List Row) :
    List String :=
  if chosen then sectionLines escaping title rows else []

/-- The lines of a report on FIRST and FOLLOW. -/
def linesOf (escaping : Text.Escaping) (firsts follows : List Row) : List String :=
  sectionLines escaping "FIRST" firsts ++ sectionLines escaping "FOLLOW" follows

variable {firsts firsts' follows follows' : List Row}

theorem sectionLines_ne_nil (title : String) (rows : List Row) :
    sectionLines escaping title rows ≠ [] :=
  List.cons_ne_nil _ _

theorem renderSection_append (title : String) (rows : List Row) :
    renderSection escaping title rows ++ "\n" =
      "\n".intercalate (sectionLines escaping title rows) := by
  rw [sectionLines, String.intercalate_append_of_ne_nil (List.cons_ne_nil _ _)
    (List.cons_ne_nil _ _), String.intercalate_singleton, String.append_empty]
  rfl

/-- Sections that are joined have the lines of one after those of the other. -/
theorem joinSections_map (parts : List (String × List Row)) :
    joinSections (parts.map fun part => renderSection escaping part.1 part.2) =
      "\n".intercalate (parts.flatMap fun part => sectionLines escaping part.1 part.2) := by
  rw [joinSections, List.map_map]
  induction parts with
  | nil => rfl
  | cons part parts ih =>
      rw [List.map_cons, Function.comp_apply, renderSection_append]
      cases parts with
      | nil => rw [List.map_nil, String.intercalate_singleton, List.flatMap_singleton]
      | cons next parts =>
          have later : (next :: parts).flatMap
              (fun part => sectionLines escaping part.1 part.2) ≠ [] := by
            simp [sectionLines_ne_nil]
          rw [List.flatMap_cons,
            String.intercalate_append_of_ne_nil (sectionLines_ne_nil _ _) later, ← ih,
            List.map_cons, String.intercalate_cons_cons]

/-- The title and the rows of a section if it is chosen. -/
def chosenSection (chosen : Bool) (title : String) (rows : List Row) :
    List (String × List Row) :=
  if chosen then [(title, rows)] else []

theorem map_chosenSection (chosen : Bool) (title : String) (rows : List Row) :
    (chosenSection chosen title rows).map (fun part => renderSection escaping part.1 part.2) =
      if chosen then [renderSection escaping title rows] else [] := by
  cases chosen <;> rfl

theorem flatMap_chosenSection (chosen : Bool) (title : String) (rows : List Row) :
    (chosenSection chosen title rows).flatMap (fun part => sectionLines escaping part.1 part.2) =
      chosenLines escaping chosen title rows := by
  cases chosen with
  | false => rfl
  | true => exact List.flatMap_singleton _ _

/-- The lines of a report are those of the chosen sections. -/
theorem renderWith_eq_lines (escaping : Text.Escaping) (grammar : Grammar) (firstSets : FirstSets)
    (followSets : FollowSets) (sections : Sections) :
    renderWith escaping grammar firstSets followSets sections =
      "\n".intercalate
        (chosenLines escaping sections.first "FIRST" (firstRows grammar firstSets) ++
          chosenLines escaping sections.suffixes "SUFFIXES" (suffixRows escaping firstSets) ++
          chosenLines escaping sections.follow "FOLLOW" (followRows grammar followSets)) := by
  simp only [renderWith, sectionTexts, ← map_chosenSection, ← flatMap_chosenSection,
    ← List.map_append, ← List.flatMap_append, joinSections_map]

theorem renderWith_eq (escaping : Text.Escaping) (grammar : Grammar) (firstSets : FirstSets)
    (followSets : FollowSets) :
    renderWith escaping grammar firstSets followSets ⟨true, true, false⟩ =
      "\n".intercalate
        (linesOf escaping (firstRows grammar firstSets) (followRows grammar followSets)) := by
  rw [renderWith_eq_lines]
  simp [chosenLines, linesOf]

/-- The lines of a section are lines if the keys of its rows are. -/
theorem not_mem_lineFeed_sectionLines (usual : escaping.IsUsual) {title : String}
    {rows : List Row} (titleSingle : '\n' ∉ title.toList)
    (single : ∀ row ∈ rows, '\n' ∉ row.1.toList) :
    ∀ line ∈ sectionLines escaping title rows, '\n' ∉ line.toList := by
  intro line member
  simp only [sectionLines, List.cons_append, List.mem_cons, List.mem_append, List.mem_map,
    List.not_mem_nil, or_false] at member
  rcases member with rfl | ⟨row, inRows, rfl⟩ | rfl
  · exact titleSingle
  · exact Row.not_mem_lineFeed_of_key usual (single row inRows)
  · exact List.not_mem_nil

theorem not_mem_lineFeed_chosenLines (usual : escaping.IsUsual) {chosen : Bool} {title : String}
    {rows : List Row} (titleSingle : '\n' ∉ title.toList)
    (single : ∀ row ∈ rows, '\n' ∉ row.1.toList) :
    ∀ line ∈ chosenLines escaping chosen title rows, '\n' ∉ line.toList := by
  cases chosen with
  | false => exact List.forall_mem_nil _
  | true => exact not_mem_lineFeed_sectionLines usual titleSingle single

theorem not_mem_lineFeed_linesOf (usual : escaping.IsUsual)
    (firstsNamed : ∀ row ∈ firsts, row.IsNamed) (followsNamed : ∀ row ∈ follows, row.IsNamed) :
    ∀ line ∈ linesOf escaping firsts follows, '\n' ∉ line.toList := by
  rw [linesOf, List.forall_mem_append]
  constructor
  · exact not_mem_lineFeed_sectionLines usual (by decide)
      fun row listed => (firstsNamed row listed).not_mem_lineFeed
  · exact not_mem_lineFeed_sectionLines usual (by decide)
      fun row listed => (followsNamed row listed).not_mem_lineFeed

/-- Two reports with as many rows in one section as in the other agree row by row. -/
theorem linesOf_inj (sameLength : firsts.length = follows.length)
    (sameLength' : firsts'.length = follows'.length)
    (same : linesOf escaping firsts follows = linesOf escaping firsts' follows') :
    firsts.map (Row.renderWith escaping) = firsts'.map (Row.renderWith escaping) ∧
      follows.map (Row.renderWith escaping) = follows'.map (Row.renderWith escaping) := by
  -- A title cannot be told from a row, so the sections are told apart by their lengths.
  have lengths := congrArg List.length same
  simp only [linesOf, sectionLines, List.length_append, List.length_cons, List.length_map,
    List.length_nil] at lengths
  have sections := List.append_inj same (by simp [sectionLines]; omega)
  have rows {title : String} {left right : List Row}
      (same : sectionLines escaping title left = sectionLines escaping title right) :
      left.map (Row.renderWith escaping) = right.map (Row.renderWith escaping) :=
    (List.cons.inj (List.append_cancel_right same)).2
  exact ⟨rows sections.1, rows sections.2⟩

/-! ## Reports -/

section Tables

variable {names others : List String} {sets sets' : String → TerminalSet}

theorem isNamed_rows (sets : String → TerminalSet)
    (named : ∀ name ∈ names, (Source.Token.nonterminal name).IsSpelled) :
    ∀ row ∈ names.map fun name => (name, sets name), Row.IsNamed row := by
  rw [List.forall_mem_map]
  exact named

/-- Names with their sets are known from their rows. -/
theorem names_eq_of_rows_eq
    (same : (names.map fun name => (name, sets name)) = others.map fun name => (name, sets' name)) :
    names = others ∧ ∀ name ∈ names, sets name = sets' name := by
  have sameNames := congrArg (List.map Prod.fst) same
  simp only [List.map_map, Function.comp_def, List.map_id'] at sameNames
  subst sameNames
  refine ⟨rfl, ?_⟩
  intro name member
  exact congrArg Prod.snd (List.map_inj_left.1 same name member)

theorem rows_eq_of_names_eq (sameNames : names = others)
    (sameSets : ∀ name ∈ names, sets name = sets' name) :
    (names.map fun name => (name, sets name)) = others.map fun name => (name, sets' name) := by
  subst sameNames
  apply List.map_congr_left
  intro name member
  rw [sameSets name member]

end Tables

variable {grammar other : Grammar} {firstSets firstSets' : FirstSets}
variable {followSets followSets' : FollowSets}

theorem length_firstRows (grammar : Grammar) (firstSets : FirstSets) (followSets : FollowSets) :
    (firstRows grammar firstSets).length = (followRows grammar followSets).length := by
  rw [firstRows, followRows, List.length_map, List.length_map]

theorem rows_eq_of_alike (usual : escaping.IsUsual)
    (named : ∀ name ∈ grammar.names, (Source.Token.nonterminal name).IsSpelled)
    (otherNamed : ∀ name ∈ other.names, (Source.Token.nonterminal name).IsSpelled)
    (same : renderWith escaping grammar firstSets followSets ⟨true, true, false⟩ =
      renderWith escaping other firstSets' followSets' ⟨true, true, false⟩) :
    firstRows grammar firstSets = firstRows other firstSets' ∧
      followRows grammar followSets = followRows other followSets' := by
  rw [renderWith_eq, renderWith_eq] at same
  have lines := Text.intercalate_newline_inj
    (not_mem_lineFeed_linesOf usual (isNamed_rows _ named) (isNamed_rows _ named))
    (not_mem_lineFeed_linesOf usual (isNamed_rows _ otherNamed) (isNamed_rows _ otherNamed))
    (by simp [linesOf, sectionLines]) (by simp [linesOf, sectionLines]) same
  have shown := linesOf_inj (length_firstRows grammar firstSets followSets)
    (length_firstRows other firstSets' followSets') lines
  exact ⟨map_renderWith_inj usual (isNamed_rows _ named) (isNamed_rows _ otherNamed) shown.1,
    map_renderWith_inj usual (isNamed_rows _ named) (isNamed_rows _ otherNamed) shown.2⟩

/-- Two reports on FIRST and FOLLOW are the same text exactly if the grammars declare
the same names in the same order, with the same sets, however characters without a
short escape are written. -/
theorem alike_iff_sets_eq (usual : escaping.IsUsual) (grammar other : Grammar)
    (firstSets firstSets' : FirstSets) (followSets followSets' : FollowSets)
    (named : ∀ name ∈ grammar.names, (Source.Token.nonterminal name).IsSpelled)
    (otherNamed : ∀ name ∈ other.names, (Source.Token.nonterminal name).IsSpelled) :
    renderWith escaping grammar firstSets followSets ⟨true, true, false⟩ =
        renderWith escaping other firstSets' followSets' ⟨true, true, false⟩ ↔
      grammar.names = other.names ∧ ∀ name ∈ grammar.names,
        firstSets.ofNonterminal name = firstSets'.ofNonterminal name ∧
          followSets.ofNonterminal name = followSets'.ofNonterminal name := by
  constructor
  · intro same
    have rows := rows_eq_of_alike usual named otherNamed same
    have firsts := names_eq_of_rows_eq rows.1
    have follows := names_eq_of_rows_eq rows.2
    exact ⟨firsts.1, fun name member => ⟨firsts.2 name member, follows.2 name member⟩⟩
  · intro same
    have firsts : firstRows grammar firstSets = firstRows other firstSets' :=
      rows_eq_of_names_eq same.1 fun name member => (same.2 name member).1
    have follows : followRows grammar followSets = followRows other followSets' :=
      rows_eq_of_names_eq same.1 fun name member => (same.2 name member).2
    rw [renderWith_eq, renderWith_eq, firsts, follows]

/-- A grammar with colons in its names. -/
def colonNames : Grammar :=
  .ofRules (.ofEntries [(":", [[.nonterminal "a:"]]), ("a:", [[.terminal "x"], [.terminal "y"]])])

/-- The set of two terminals for every name. -/
def twoTerminals : FirstSets :=
  .constant [[.nonterminal ":"], [.nonterminal "a:"]] (.ofList ["x", "y"])

/-- For one name, the set of a terminal that looks like two. -/
def forgedTerminal : FirstSets :=
  twoTerminals.insert [.nonterminal "a:"] (.singleton "x\" \"y")

theorem forgedTerminal_shown :
    Text.escapeChar.IsUsual ∧
      (∀ name ∈ colonNames.names, (Source.Token.nonterminal name).IsSpelled) ∧
      render colonNames twoTerminals colonNames.followSets ⟨true, true, false⟩ ≠
        render colonNames forgedTerminal colonNames.followSets ⟨true, true, false⟩ := by
  have usual := Text.escapeChar_isUsual
  have named : ∀ name ∈ colonNames.names, (Source.Token.nonterminal name).IsSpelled := by decide
  have different : twoTerminals.ofNonterminal "a:" ≠ forgedTerminal.ofNonterminal "a:" := by
    decide +kernel
  refine ⟨usual, named, ?_⟩
  intro same
  have agree := (alike_iff_sets_eq usual colonNames colonNames twoTerminals forgedTerminal
    colonNames.followSets colonNames.followSets named named).1 same
  exact different (agree.2 "a:" (by decide)).1

end Report

end Lookahead
