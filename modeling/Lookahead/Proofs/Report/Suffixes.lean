import Lookahead.Proofs.First.Rounds
import Lookahead.Proofs.Report.Order
import Lookahead.Proofs.Report.Reading
import Lookahead.Proofs.Source.WellFormed
import Lookahead.Proofs.Text.ByteOrder

/-!
# Rows of SUFFIXES

The rows of SUFFIXES are put in order, so they do not show in which order the sets were
held.  The suffixes of a grammar that is read all look different.  So each of them has a
key of its own, and the keys ascend.
-/

namespace Lookahead

variable {escaping : Text.Escaping} {grammar : Grammar} {line : Line}

/-! ## Suffixes of a grammar that is read -/

theorem Symbol.IsReadable.isProper {symbol : Symbol} (readable : symbol.IsReadable) :
    symbol.IsProper := by
  cases symbol with
  | terminal text => exact ⟨trivial, fun empty => readable.1 (Symbol.terminal.inj empty)⟩
  | nonterminal name => exact ⟨⟨readable.isSpelled, readable.unreserved⟩, by simp⟩

namespace Line

/-- Different lines look different. -/
theorem nodup_map_renderWith (usual : escaping.IsUsual) {lines : List Line}
    (proper : ∀ line ∈ lines, ∀ symbol ∈ line, symbol.IsProper) (distinct : lines.Nodup) :
    (lines.map (Line.renderWith escaping)).Nodup := by
  refine distinct.map_on ?_
  intro left inLines right inLines' same
  rw [renderWith_eq, renderWith_eq] at same
  have leftProper := proper left inLines
  have rightProper := proper right inLines'
  apply orEpsilon_inj leftProper rightProper
  exact (Symbol.toldApart_renderWith usual).intercalate_inj (Symbol.renderWith_ne_empty usual)
    (isShowable_orEpsilon leftProper) (isShowable_orEpsilon rightProper) same

theorem not_mem_lineFeed (usual : escaping.IsUsual) (proper : ∀ symbol ∈ line, symbol.IsProper) :
    '\n' ∉ (line.renderWith escaping).toList := by
  rw [renderWith_eq]
  apply Text.not_mem_intercalate (by decide)
  intro symbol member
  have showable := isShowable_orEpsilon proper symbol member
  exact (Symbol.shown_renderWith usual showable).not_mem_lineFeed

theorem renderWith_nonterminal (name : String) :
    Line.renderWith escaping [.nonterminal name] = name := by
  simp [Line.renderWith, Symbol.renderWith]

end Line

namespace Report

variable {firstSets firstSets' : FirstSets} {followSets followSets' : FollowSets}
variable {sections : Sections}

/-! ## Tables in another order -/

theorem suffixRows_eq_of_perm (same : firstSets.entries.Perm firstSets'.entries) :
    suffixRows escaping firstSets = suffixRows escaping firstSets' :=
  mergeSort_eq_of_perm (same.map _)

theorem firstRows_eq_of_perm (same : firstSets.entries.Perm firstSets'.entries) :
    firstRows grammar firstSets = firstRows grammar firstSets' := by
  apply List.map_congr_left
  intro name _
  rw [FirstSets.ofNonterminal, FirstSets.ofLine, Table.get?_eq_of_perm same]
  rfl

theorem followRows_eq_of_perm (same : followSets.entries.Perm followSets'.entries) :
    followRows grammar followSets = followRows grammar followSets' := by
  apply List.map_congr_left
  intro name _
  rw [FollowSets.ofNonterminal, Table.get?_eq_of_perm same]
  rfl

theorem renderWith_eq_of_perm (sameFirst : firstSets.entries.Perm firstSets'.entries)
    (sameFollow : followSets.entries.Perm followSets'.entries) :
    renderWith escaping grammar firstSets followSets sections =
      renderWith escaping grammar firstSets' followSets' sections := by
  rw [renderWith, renderWith, sectionTexts, sectionTexts, firstRows_eq_of_perm sameFirst,
    suffixRows_eq_of_perm sameFirst, followRows_eq_of_perm sameFollow]

/-! ## Rows of lines -/

/-- The row of a line in SUFFIXES. -/
def rowOfLine (escaping : Text.Escaping) (firstSets : FirstSets) (line : Line) : Row :=
  (line.renderWith escaping, firstSets.ofLine line)

/-- The lines that have a FIRST set, in the order of their rows. -/
def linesInOrder (escaping : Text.Escaping) (firstSets : FirstSets) : List Line :=
  firstSets.keys.mergeSort fun left right =>
    Row.le (rowOfLine escaping firstSets left) (rowOfLine escaping firstSets right)

theorem perm_linesInOrder : (linesInOrder escaping firstSets).Perm firstSets.keys :=
  List.mergeSort_perm _ _

theorem rows_of_entries (escaping : Text.Escaping) (firstSets : FirstSets) :
    (firstSets.entries.map fun entry => (entry.1.renderWith escaping, entry.2)) =
      firstSets.keys.map (rowOfLine escaping firstSets) := by
  rw [Table.keys, List.map_map]
  apply List.map_congr_left
  intro entry listed
  have held : firstSets.get? entry.1 = some entry.2 := Table.get?_eq_some_iff.2 listed
  simp [rowOfLine, FirstSets.ofLine, held]

theorem suffixRows_eq_mergeSort (escaping : Text.Escaping) (firstSets : FirstSets) :
    suffixRows escaping firstSets =
      (firstSets.keys.map (rowOfLine escaping firstSets)).mergeSort Row.le :=
  congrArg (List.mergeSort · Row.le) (rows_of_entries escaping firstSets)

/-- Each line with a FIRST set has a row. -/
theorem suffixRows_eq (escaping : Text.Escaping) (firstSets : FirstSets) :
    suffixRows escaping firstSets =
      (linesInOrder escaping firstSets).map (rowOfLine escaping firstSets) := by
  rw [suffixRows_eq_mergeSort, linesInOrder, List.map_mergeSort]
  intro left _ right _
  rfl

/-- Rows of all lines that are in order are the rows of SUFFIXES. -/
theorem suffixRows_eq_of_ascending {rows : List Row}
    (same : (firstSets.entries.map fun entry => (entry.1.renderWith escaping, entry.2)).Perm rows)
    (ascending : rows.Pairwise fun left right => Row.le left right = true) :
    suffixRows escaping firstSets = rows :=
  (mergeSort_eq_of_perm same).trans (List.mergeSort_of_pairwise ascending)

theorem rowOfLine_nonterminal (name : String) :
    rowOfLine escaping firstSets [.nonterminal name] = (name, firstSets.ofNonterminal name) := by
  rw [rowOfLine, Line.renderWith_nonterminal, FirstSets.ofNonterminal]

theorem map_fst_rowOfLine (lines : List Line) :
    (lines.map (rowOfLine escaping firstSets)).map Prod.fst =
      lines.map (Line.renderWith escaping) :=
  List.map_map

/-! ## Rows of a grammar that is read -/

/-- Rows list the FIRST sets of all suffixes of a grammar. -/
structure ListsSuffixes (escaping : Text.Escaping) (grammar : Grammar) (rows : List Row) :
    Prop where
  /-- Each registered line has one row. -/
  once : ∃ lines : List Line, lines.Nodup ∧ (∀ line, line ∈ lines ↔ grammar.IsRegistered line) ∧
    rows = lines.map (rowOfLine escaping grammar.firstSets)
  apart : (rows.map Prod.fst).Nodup
  ascending : (rows.map Prod.fst).Pairwise Text.BytesBefore
  /-- FIRST has a row for each nonterminal with a rule. -/
  declared : (firstRows grammar grammar.firstSets).map Prod.fst = grammar.names
  /-- A nonterminal has the row that it has in FIRST. -/
  names : ∀ row ∈ firstRows grammar grammar.firstSets, row ∈ rows
  /-- Each row is a line of the section. -/
  shown : (renderSection escaping "SUFFIXES" rows).toList.splitOn '\n' =
    ("SUFFIXES" :: rows.map (Row.renderWith escaping)).map String.toList

theorem mem_linesInOrder :
    line ∈ linesInOrder escaping grammar.firstSets ↔ grammar.IsRegistered line := by
  rw [perm_linesInOrder.mem_iff, Grammar.mem_keys_firstSets, Grammar.mem_suffixes]

/-- Nonterminals are shown in FIRST as they are in SUFFIXES. -/
theorem mem_suffixRows_of_mem_firstRows {row : Row}
    (listed : row ∈ firstRows grammar grammar.firstSets) :
    row ∈ suffixRows escaping grammar.firstSets := by
  rcases List.mem_map.1 listed with ⟨name, declared, rfl⟩
  have registered : grammar.IsRegistered [.nonterminal name] := .inr (.inl ⟨name, declared, rfl⟩)
  rw [suffixRows_eq, ← rowOfLine_nonterminal]
  exact List.mem_map_of_mem (mem_linesInOrder.2 registered)

theorem splitOn_renderSection (usual : escaping.IsUsual) {title : String} {rows : List Row}
    (titleSingle : '\n' ∉ title.toList) (single : ∀ row ∈ rows, '\n' ∉ row.1.toList) :
    (renderSection escaping title rows).toList.splitOn '\n' =
      (title :: rows.map (Row.renderWith escaping)).map String.toList := by
  apply Text.splitOn_intercalate_newline _ (List.cons_ne_nil _ _)
  rw [List.forall_mem_cons, List.forall_mem_map]
  exact ⟨titleSingle, fun row listed => Row.not_mem_lineFeed_of_key usual (single row listed)⟩

theorem isProper_of_mem_keys (formed : grammar.WellFormed)
    (listed : line ∈ grammar.firstSets.keys) : ∀ symbol ∈ line, symbol.IsProper := by
  intro symbol member
  have registered := Grammar.mem_suffixes.1 (Grammar.mem_keys_firstSets.1 listed)
  exact (formed.isReadable registered symbol member).isProper

theorem not_mem_lineFeed_suffixRows (usual : escaping.IsUsual) (formed : grammar.WellFormed) :
    ∀ row ∈ suffixRows escaping grammar.firstSets, '\n' ∉ row.1.toList := by
  rw [suffixRows_eq, List.forall_mem_map]
  intro line listed
  have proper := isProper_of_mem_keys formed (perm_linesInOrder.mem_iff.1 listed)
  exact Line.not_mem_lineFeed usual proper

theorem listsSuffixes (usual : escaping.IsUsual) (formed : grammar.WellFormed) :
    ListsSuffixes escaping grammar (suffixRows escaping grammar.firstSets) := by
  have distinct := Line.nodup_map_renderWith usual
    (fun line listed => isProper_of_mem_keys formed listed) grammar.firstSets.nodup_keys
  rw [← map_fst_rowOfLine] at distinct
  constructor
  · exact ⟨linesInOrder escaping grammar.firstSets,
      perm_linesInOrder.nodup_iff.2 grammar.firstSets.nodup_keys, fun _ => mem_linesInOrder,
      suffixRows_eq escaping grammar.firstSets⟩
  · rw [suffixRows_eq_mergeSort]
    exact ((List.mergeSort_perm _ _).map Prod.fst).nodup_iff.2 distinct
  · rw [suffixRows_eq_mergeSort]
    exact (pairwise_keys_mergeSort distinct).imp Text.bytesBefore_of_lt
  · rw [firstRows, List.map_map]
    exact List.map_id _
  · exact fun row => mem_suffixRows_of_mem_firstRows
  · exact splitOn_renderSection usual (by decide) (not_mem_lineFeed_suffixRows usual formed)

/-- The section stands in the report, between FIRST and FOLLOW. -/
theorem splitOn_renderWith (usual : escaping.IsUsual) (formed : grammar.WellFormed)
    (chosen : sections.suffixes = true) :
    (renderWith escaping grammar grammar.firstSets followSets sections).toList.splitOn '\n' =
      (chosenLines escaping sections.first "FIRST" (firstRows grammar grammar.firstSets) ++
        sectionLines escaping "SUFFIXES" (suffixRows escaping grammar.firstSets) ++
        chosenLines escaping sections.follow "FOLLOW" (followRows grammar followSets)).map
          String.toList := by
  have named {sets : String → TerminalSet} :
      ∀ row ∈ grammar.names.map fun name => (name, sets name), '\n' ∉ row.1.toList := by
    rw [List.forall_mem_map]
    intro name declared
    exact (formed.named name declared).isSpelled.not_mem_lineFeed
  have suffixes : chosenLines escaping true "SUFFIXES" (suffixRows escaping grammar.firstSets) =
      sectionLines escaping "SUFFIXES" (suffixRows escaping grammar.firstSets) := rfl
  rw [renderWith_eq_lines, chosen, suffixes]
  apply Text.splitOn_intercalate_newline
  · rw [List.forall_mem_append, List.forall_mem_append]
    refine ⟨⟨?_, ?_⟩, ?_⟩
    · exact not_mem_lineFeed_chosenLines usual (by decide) named
    · exact not_mem_lineFeed_sectionLines usual (by decide)
        (not_mem_lineFeed_suffixRows usual formed)
    · exact not_mem_lineFeed_chosenLines usual (by decide) named
  · simp [sectionLines_ne_nil]

/-- Reports do not show in which order the sets were held, and SUFFIXES lists every suffix of
a grammar that is read once, by the bytes of its written form.  In every report that has the
section its rows stand under the title, after those of FIRST and before those of FOLLOW. -/
theorem suffixes_listed_by_bytes (escaping : Text.Escaping) :
    (∀ grammar firstSets firstSets' followSets followSets' sections,
      firstSets.entries.Perm firstSets'.entries → followSets.entries.Perm followSets'.entries →
        renderWith escaping grammar firstSets followSets sections =
          renderWith escaping grammar firstSets' followSets' sections) ∧
      (escaping.IsUsual → ∀ text grammar, Source.parse text = .ok grammar →
        ListsSuffixes escaping grammar (suffixRows escaping grammar.firstSets) ∧
        ∀ followSets sections, sections.suffixes = true →
          (renderWith escaping grammar grammar.firstSets followSets sections).toList.splitOn '\n' =
            (chosenLines escaping sections.first "FIRST" (firstRows grammar grammar.firstSets) ++
              sectionLines escaping "SUFFIXES" (suffixRows escaping grammar.firstSets) ++
              chosenLines escaping sections.follow "FOLLOW" (followRows grammar followSets)).map
                String.toList) := by
  constructor
  · intro grammar firstSets firstSets' followSets followSets' sections sameFirst sameFollow
    exact renderWith_eq_of_perm sameFirst sameFollow
  · intro usual text grammar read
    have formed := Source.wellFormed_of_parse read
    constructor
    · exact listsSuffixes usual formed
    · intro followSets sections chosen
      exact splitOn_renderWith usual formed chosen

/-- A grammar whose alternatives end alike. -/
def sharedTails : Grammar :=
  .ofRules (.ofEntries
    [("S", [[.nonterminal "A", .terminal "b"], [.terminal "a", .terminal "b"]]),
      ("A", [[.terminal "a"], []])])

/-- The rows of its suffixes. -/
def sharedRows : List Row :=
  [("\"a\"", .singleton "a"), ("\"a\" \"b\"", .singleton "a"), ("\"b\"", .singleton "b"),
    ("A", .ofList ["", "a"]), ("A \"b\"", .ofList ["a", "b"]), ("S", .ofList ["a", "b"]),
    ("ε", .singleton epsilon)]

/-- Sets of two lines, the shorter one first. -/
def shorterFirst : FirstSets :=
  .ofEntries [([], .singleton epsilon), ([.terminal "b"], .singleton "b")]

/-- The same sets, the shorter line last. -/
def shorterLast : FirstSets :=
  .ofEntries [([.terminal "b"], .singleton "b"), ([], .singleton epsilon)]

theorem sharedTails_listed :
    shorterFirst.entries.Perm shorterLast.entries ∧
      (∀ sections, render sharedTails shorterFirst sharedTails.followSets sections =
        render sharedTails shorterLast sharedTails.followSets sections) ∧
      Text.escapeChar.IsUsual ∧
      Source.parse "S = A \"b\" | \"a\" \"b\"\nA = \"a\" |" = .ok sharedTails ∧
      ListsSuffixes Text.escapeChar sharedTails
        (suffixRows Text.escapeChar sharedTails.firstSets) ∧
      ("A", .ofList ["", "a"]) ∈ suffixRows Text.escapeChar sharedTails.firstSets ∧
      (render sharedTails sharedTails.firstSets sharedTails.followSets
          ⟨true, true, true⟩).toList.splitOn '\n' =
        ["FIRST", "  S: \"a\" \"b\"", "  A: ε \"a\"", "",
          "SUFFIXES", "  \"a\": \"a\"", "  \"a\" \"b\": \"a\"", "  \"b\": \"b\"",
          "  A: ε \"a\"", "  A \"b\": \"a\" \"b\"", "  S: \"a\" \"b\"", "  ε: ε", "",
          "FOLLOW", "  S: ε", "  A: \"b\"", ""].map String.toList := by
  have same : shorterFirst.entries.Perm shorterLast.entries := by decide +kernel
  have usual := Text.escapeChar_isUsual
  have read : Source.parse "S = A \"b\" | \"a\" \"b\"\nA = \"a\" |" = .ok sharedTails := by
    decide +kernel
  have shownInFirst : ("A", .ofList ["", "a"]) ∈ firstRows sharedTails sharedTails.firstSets := by
    decide +kernel
  obtain ⟨listed, reported⟩ := (suffixes_listed_by_bytes Text.escapeChar).2 usual _ _ read
  refine ⟨same, ?_, usual, read, listed, listed.names _ shownInFirst, ?_⟩
  · intro sections
    exact (suffixes_listed_by_bytes Text.escapeChar).1 sharedTails _ _ _ _ sections same (.refl _)
  · have rows : suffixRows Text.escapeChar sharedTails.firstSets = sharedRows :=
      suffixRows_eq_of_ascending (by decide +kernel) (by decide +kernel)
    rw [render, reported _ _ rfl, rows]
    refine congrArg (List.map String.toList) ?_
    decide +kernel

end Report

end Lookahead
