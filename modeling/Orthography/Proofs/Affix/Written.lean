import Orthography.Proofs.Affix.Entries

/-!
# Writing affix files

Each statement is written as one line, or as the header of a block with the number of its lines and
then these lines.  What can be written is read back: statement by statement
(`Statement.value_readFrom_written_append`), and so every grammar, in whatever order its parts are
written (`Grammar.read_writeAll`).
-/

namespace Orthography

namespace Statement

/-! ### Statements -/

/-- How it is written whether the forms of a rule may be combined with others. -/
def combinableColumn (combinable : Bool) : Text := if combinable then ['Y'] else ['N']

/-- The columns of the lines in which a statement is written. -/
def rows : Statement → List (List Text)
  | rule code given =>
    [given.kind.marker, code, combinableColumn given.combinable,
        Text.numeral given.entries.length] :: given.entries.map (·.columns given.kind code)
  | compounds rules =>
    [compoundMarker, Text.numeral rules.length] ::
      rules.map fun rule => [compoundMarker, rule.source]
  | replacement given => [[replacementMarker, given.source, given.target]]
  | setting name value => [[name, value]]

/-- The lines in which a statement is written. -/
def written (statement : Statement) : List Text := statement.rows.map Text.row

/-- A statement that can be written: its columns are tokens, its blocks are not too long to be
counted, and the name of a setting does not start another statement. -/
def Writable : Statement → Prop
  | rule code given => code.IsToken ∧ given.entries.length < countLimit ∧
      ∀ entry ∈ given.entries, entry.Writable given.kind
  | compounds rules => rules.length < countLimit ∧ ∀ rule ∈ rules, rule.source.IsToken
  | replacement given => given.source.IsToken ∧ given.target.IsToken
  | setting name value => name.IsToken ∧ (∀ kind : AffixKind, name ≠ kind.marker) ∧
      name ≠ compoundMarker ∧ name ≠ replacementMarker ∧ (value = [] ∨ value.IsToken)

instance : DecidablePred Writable
  | rule code given => inferInstanceAs (Decidable (code.IsToken ∧
      given.entries.length < countLimit ∧ ∀ entry ∈ given.entries, entry.Writable given.kind))
  | compounds rules => inferInstanceAs (Decidable (rules.length < countLimit ∧
      ∀ rule ∈ rules, rule.source.IsToken))
  | replacement given => inferInstanceAs (Decidable (given.source.IsToken ∧ given.target.IsToken))
  | setting name value => inferInstanceAs (Decidable (name.IsToken ∧
      (∀ kind : AffixKind, name ≠ kind.marker) ∧ name ≠ compoundMarker ∧
      name ≠ replacementMarker ∧ (value = [] ∨ value.IsToken)))

/-- All columns of a statement can stand as columns. -/
theorem isColumn_of_mem_rows {statement : Statement} (hstatement : statement.Writable) :
    ∀ columns ∈ statement.rows, ∀ column ∈ columns, column.IsColumn := by
  cases statement with
  | rule code given =>
      obtain ⟨hcode, -, hentries⟩ := hstatement
      simp only [rows, List.forall_mem_cons, List.forall_mem_map]
      refine ⟨⟨given.kind.isColumn_marker, hcode.toIsColumn, ?_, Text.isColumn_numeral _,
        List.forall_mem_nil _⟩, fun entry hentry column hcolumn =>
          ((hentries entry hentry).filled_columns hcode column hcolumn).1⟩
      cases given.combinable <;> decide
  | compounds rules =>
      obtain ⟨-, hrules⟩ := hstatement
      have hmarker : compoundMarker.IsColumn := by decide
      simp only [rows, List.forall_mem_cons, List.forall_mem_map]
      exact ⟨⟨hmarker, Text.isColumn_numeral _, List.forall_mem_nil _⟩,
        fun rule hrule => ⟨hmarker, (hrules rule hrule).toIsColumn, List.forall_mem_nil _⟩⟩
  | replacement given =>
      have hmarker : replacementMarker.IsColumn := by decide
      simp only [rows, List.forall_mem_cons]
      exact ⟨⟨hmarker, hstatement.1.toIsColumn, hstatement.2.toIsColumn, List.forall_mem_nil _⟩,
        List.forall_mem_nil _⟩
  | setting name value =>
      obtain ⟨hname, -, -, -, hvalue⟩ := hstatement
      simp only [rows, List.forall_mem_cons]
      refine ⟨⟨hname.toIsColumn, ?_, List.forall_mem_nil _⟩, List.forall_mem_nil _⟩
      rcases hvalue with rfl | hvalue
      · decide
      · exact hvalue.toIsColumn

/-- The columns of a line are read back without the empty ones. -/
theorem columns_row_of_mem_rows {statement : Statement} (hstatement : statement.Writable)
    {columns : List Text} (hcolumns : columns ∈ statement.rows) (hsome : columns ≠ []) :
    Statement.columns (Text.row columns) = columns.filter (!·.isEmpty) :=
  columns_row hsome (isColumn_of_mem_rows hstatement columns hcolumns)

/-! ### Headers -/

/-- The header of a rule. -/
theorem headerOf_rule {code : Code} {given : AffixRule} (hrule : (rule code given).Writable) :
    headerOf (Text.row [given.kind.marker, code, combinableColumn given.combinable,
        Text.numeral given.entries.length]) =
      .rule given.kind code given.combinable given.entries.length := by
  have hcombinable : combinableColumn given.combinable ≠ [] ∧
      AffixKind.ofMarker? (combinableColumn given.combinable) = none ∧
      decide (combinableColumn given.combinable = ['Y']) = given.combinable := by
    cases given.combinable <;> decide
  have hnumeral : Text.numeral given.entries.length ≠ [] := Nat.toDigits_ne_nil
  rw [headerOf, columns_row_of_mem_rows hrule List.mem_cons_self (List.cons_ne_nil _ _)]
  simp [given.kind.marker_ne_nil, hrule.1.ne_nil, hcombinable, hnumeral, readHeader,
    readRuleHeader, shift, Text.count?_numeral hrule.2.1]

/-- The header of a list of compound rules. -/
theorem headerOf_compounds {rules : List CompoundRule} (hrules : (compounds rules).Writable) :
    headerOf (Text.row [compoundMarker, Text.numeral rules.length]) =
      .compounds rules.length := by
  have hmarker : compoundMarker ≠ [] ∧ AffixKind.ofMarker? compoundMarker = none := by decide
  have hnumeral : Text.numeral rules.length ≠ [] := Nat.toDigits_ne_nil
  rw [headerOf, columns_row_of_mem_rows hrules List.mem_cons_self (List.cons_ne_nil _ _)]
  simp [hmarker, hnumeral, readHeader, Text.count?_numeral hrules.1]

/-- The line of a replacement. -/
theorem headerOf_replacement {given : Replacement} (hgiven : (replacement given).Writable) :
    headerOf (Text.row [replacementMarker, given.source, given.target]) =
      .single (replacement given) := by
  have hmarker : replacementMarker ≠ [] ∧ AffixKind.ofMarker? replacementMarker = none ∧
      replacementMarker ≠ compoundMarker := by decide
  rw [headerOf, columns_row_of_mem_rows hgiven List.mem_cons_self (List.cons_ne_nil _ _)]
  simp [hmarker, hgiven.1.ne_nil, hgiven.2.ne_nil, readHeader]

/-- The line of a setting, where an empty value leaves no column. -/
theorem headerOf_setting {name value : Text} (hsetting : (setting name value).Writable) :
    headerOf (Text.row [name, value]) = .single (setting name value) := by
  rw [headerOf, columns_row_of_mem_rows hsetting List.mem_cons_self (List.cons_ne_nil _ _)]
  obtain ⟨hname, hkinds, hcompounds, hreplacement, -⟩ := hsetting
  have hvalue : ([value].filter (!·.isEmpty)).headD [] = value := by
    cases value <;> rfl
  rw [List.filter_cons_of_pos (by simpa using hname.ne_nil)]
  simp only [readHeader, AffixKind.ofMarker?_eq_none hkinds, hcompounds, hreplacement, hvalue,
    Option.isSome_none, Bool.false_eq_true, if_false]

/-! ### Blocks -/

/-- The lines of entries are read as the entries. -/
theorem entriesOf_map_columns {kind : AffixKind} {code : Code} {entries : List AffixEntry}
    (hcode : code.IsToken) (hentries : ∀ entry ∈ entries, entry.Writable kind) :
    entriesOf kind ((entries.map (·.columns kind code)).map Text.row) = entries := by
  rw [entriesOf, List.map_map, List.filterMap_map]
  conv_rhs => rw [← List.map_id entries]
  refine List.filterMap_eq_map_iff_forall_eq_some.mpr fun entry hentry => ?_
  rw [Function.comp_apply, Function.comp_apply, readEntry_row hcode (hentries entry hentry)]
  rfl

/-- The lines of compound rules are read as the rules. -/
theorem compoundsOf_map_source {rules : List CompoundRule} (hrules : (compounds rules).Writable) :
    compoundsOf ((rules.map fun rule => [compoundMarker, rule.source]).map Text.row) = rules := by
  rw [compoundsOf, List.map_map, List.filterMap_map]
  conv_rhs => rw [← List.map_id rules]
  refine List.filterMap_eq_map_iff_forall_eq_some.mpr fun rule hrule => ?_
  have hmarker : compoundMarker ≠ [] := by decide
  rw [Function.comp_apply, Function.comp_apply, columns_row_of_mem_rows hrules
    (List.mem_cons_of_mem _ (List.mem_map_of_mem hrule)) (List.cons_ne_nil _ _)]
  simp [hmarker, (hrules.2 rule hrule).ne_nil]

/-- A header with the lines that it asks for is read as the statement that it makes with them. -/
theorem value_readFrom_block {header : Text} {block : List Text} {statement : Statement}
    (hcount : (headerOf header).count = block.length)
    (hstatement : (headerOf header).statement? block = some statement)
    (number : Nat) (rest : List Text) :
    (readFrom number (header :: block ++ rest)).value =
      (readFrom (number + (header :: block).length) rest).value.map (statement :: ·) := by
  have hlong : ¬ (block ++ rest).length < block.length := by
    rw [List.length_append]
    omega
  have hnumber : number + 1 + block.length = number + (header :: block).length := by
    rw [List.length_cons]
    omega
  rw [List.cons_append, value_readFrom_cons, hcount, if_neg hlong, List.take_left, List.drop_left,
    hstatement, hnumber]
  rfl

/-- The lines of a statement are read as the statement. -/
theorem value_readFrom_written_append {statement : Statement} (hstatement : statement.Writable)
    (number : Nat) (rest : List Text) :
    (readFrom number (statement.written ++ rest)).value =
      (readFrom (number + statement.written.length) rest).value.map (statement :: ·) := by
  cases statement with
  | rule code given =>
      refine value_readFrom_block ?_ ?_ number rest
      · rw [headerOf_rule hstatement, List.length_map, List.length_map]
        rfl
      · rw [headerOf_rule hstatement, Header.statement?,
          entriesOf_map_columns hstatement.1 hstatement.2.2]
  | compounds rules =>
      refine value_readFrom_block ?_ ?_ number rest
      · rw [headerOf_compounds hstatement, List.length_map, List.length_map]
        rfl
      · rw [headerOf_compounds hstatement, Header.statement?, compoundsOf_map_source hstatement]
  | replacement given =>
      refine value_readFrom_block ?_ ?_ number rest
      · rw [headerOf_replacement hstatement]
        rfl
      · rw [headerOf_replacement hstatement]
        rfl
  | setting name value =>
      refine value_readFrom_block ?_ ?_ number rest
      · rw [headerOf_setting hstatement]
        rfl
      · rw [headerOf_setting hstatement]
        rfl

/-! ### Files -/

/-- The text with some statements, one behind the other. -/
def writeAll (statements : List Statement) : Text :=
  Text.ofLines (statements.flatMap (·.written))

/-- The lines of statements are read as the statements. -/
theorem value_readFrom_written {statements : List Statement}
    (hstatements : ∀ statement ∈ statements, statement.Writable) (number : Nat) :
    (readFrom number (statements.flatMap (·.written))).value = .ok statements := by
  induction statements generalizing number with
  | nil => exact value_readFrom_nil number
  | cons statement statements ih =>
      obtain ⟨hfirst, hrest⟩ := List.forall_mem_cons.mp hstatements
      rw [List.flatMap_cons, value_readFrom_written_append hfirst, ih hrest]
      rfl

/-- No line of a statement is cut. -/
theorem not_mem_of_mem_written {statement : Statement} (hstatement : statement.Writable) :
    ∀ line ∈ statement.written, '\n' ∉ line ∧ line.getLast? ≠ some '\r' := by
  intro line hline
  obtain ⟨columns, hcolumns, rfl⟩ := List.mem_map.mp hline
  have hrow : ∀ c ∈ Text.row columns, c = ' ' ∨ Character.isBlank c = false :=
    Text.eq_or_of_mem_intercalate fun column hcolumn =>
      (isColumn_of_mem_rows hstatement columns hcolumns column hcolumn).solid
  exact ⟨fun hfeed => absurd (hrow _ hfeed) (by decide),
    fun hback => absurd (hrow _ (List.mem_of_getLast? hback)) (by decide)⟩

/-- The first line of a statement starts with a word without the byte order mark. -/
theorem exists_rows_eq {statement : Statement} (hstatement : statement.Writable) :
    ∃ word columns rows, statement.rows = (word :: columns) :: rows ∧ word ≠ [] ∧
      Text.byteOrderMark ∉ word := by
  cases statement with
  | rule code given =>
      have hmarker : Text.byteOrderMark ∉ given.kind.marker := by cases given.kind <;> decide
      exact ⟨_, _, _, rfl, given.kind.marker_ne_nil, hmarker⟩
  | compounds rules => exact ⟨_, _, _, rfl, by decide, by decide⟩
  | replacement given => exact ⟨_, _, _, rfl, by decide, by decide⟩
  | setting name value => exact ⟨_, _, _, rfl, hstatement.1.ne_nil, hstatement.1.unmarked⟩

/-- A written text does not start with the byte order mark. -/
theorem head?_writeAll {statements : List Statement}
    (hstatements : ∀ statement ∈ statements, statement.Writable) :
    (writeAll statements).head? ≠ some Text.byteOrderMark := by
  cases statements with
  | nil => nofun
  | cons statement statements =>
      obtain ⟨word, columns, rows, hrows, hsome, hunmarked⟩ :=
        exists_rows_eq (hstatements statement List.mem_cons_self)
      obtain ⟨rest, hrest⟩ : ∃ rest, Text.row (word :: columns) = word ++ rest := by
        cases columns with
        | nil => exact ⟨[], by rw [Text.row_singleton, List.append_nil]⟩
        | cons second columns => exact ⟨_, Text.row_cons_cons word second columns⟩
      have htext : (writeAll (statement :: statements)).head? = word.head? := by
        rw [writeAll, List.flatMap_cons, written, hrows, List.map_cons, List.cons_append,
          Text.ofLines, List.flatMap_cons, hrest, List.append_assoc, List.append_assoc,
          List.head?_append_of_ne_nil _ hsome]
      rw [htext]
      exact fun hhead => hunmarked (List.mem_of_mem_head? hhead)

/-- Statements that can be written are read back. -/
theorem value_readAll_writeAll {statements : List Statement}
    (hstatements : ∀ statement ∈ statements, statement.Writable) :
    (readAll (writeAll statements)).value = .ok statements := by
  have hlines : Text.lines (writeAll statements) = statements.flatMap (·.written) := by
    refine Text.lines_ofLines fun line hline => ?_
    obtain ⟨statement, hstatement, hline⟩ := List.mem_flatMap.mp hline
    exact not_mem_of_mem_written (hstatements statement hstatement) line hline
  rw [readAll, Text.dropMark_of_head? (head?_writeAll hstatements), hlines,
    value_readFrom_written hstatements]

end Statement

/-! ### Grammars -/

namespace Grammar

/-- Some statements list a grammar: each of its rules and settings once, in any order, and its
compound rules and replacements in their order. -/
structure Lists (grammar : Grammar) (statements : List Statement) : Prop where
  rules : (statements.filterMap (·.rule?)).Perm grammar.rules.entries
  compoundRules : statements.flatMap (·.compoundRules) = grammar.compoundRules
  replacements : statements.filterMap (·.replacement?) = grammar.replacements
  settings : (statements.filterMap (·.setting?)).Perm grammar.settings.values.entries

/-- The statements of a grammar: its rules, its compound rules in one list, its replacements and its
settings. -/
def statements (grammar : Grammar) : List Statement :=
  grammar.rules.entries.map (fun entry => .rule entry.1 entry.2) ++
    (.compounds grammar.compoundRules :: grammar.replacements.map .replacement ++
      grammar.settings.values.entries.map fun entry => .setting entry.1 entry.2)

/-- A grammar that can be written: so can be all its parts, and its codes are those that they speak
of. -/
structure Writable (grammar : Grammar) : Prop where
  rules : ∀ code given, grammar.rule? code = some given → (Statement.rule code given).Writable
  compoundRules : (Statement.compounds grammar.compoundRules).Writable
  replacements : ∀ given ∈ grammar.replacements, (Statement.replacement given).Writable
  settings : ∀ name value, grammar.settings.get? name = some value →
    (Statement.setting name value).Writable
  indexed : grammar.Indexed

/-- A grammar can be written if the statements that list it can be written. -/
theorem writable_of_statements {grammar : Grammar} (hindexed : grammar.Indexed)
    (hstatements : ∀ statement ∈ grammar.statements, statement.Writable) : grammar.Writable := by
  simp only [statements, List.forall_mem_append, List.forall_mem_cons, List.forall_mem_map]
    at hstatements
  obtain ⟨hrules, ⟨hcompounds, hreplacements⟩, hsettings⟩ := hstatements
  exact ⟨fun code given hrule => hrules (code, given) (Table.mem_entries_iff.mpr hrule), hcompounds,
    hreplacements, fun name value hsetting =>
      hsettings (name, value) (Table.mem_entries_iff.mpr hsetting), hindexed⟩

/-- The statements of a grammar list it. -/
theorem lists_statements (grammar : Grammar) : grammar.Lists grammar.statements := by
  have hnone {α : Type} (list : List α) : list.flatMap (fun _ => ([] : List CompoundRule)) = [] :=
    List.flatMap_eq_nil_iff.mpr fun _ _ => rfl
  refine ⟨.of_eq ?_, ?_, ?_, .of_eq ?_⟩
  all_goals simp [statements, List.filterMap_map, List.flatMap_map, hnone]

variable {grammar : Grammar} {statements : List Statement}

/-- The grammar of the statements that list it. -/
theorem ofStatements_of_lists (hindexed : grammar.Indexed) (hlists : grammar.Lists statements) :
    ofStatements statements = grammar := by
  have hcodes := indexed_iff.mp hindexed
  rw [ofStatements, foldl_add]
  simp only [empty, List.nil_append, Settings.empty, hlists.compoundRules, hlists.replacements,
    Table.insertAll_empty_of_perm hlists.rules, Table.insertAll_empty_of_perm hlists.settings]
  rw [← hcodes]

/-- Statements that list a grammar that can be written can be written. -/
theorem Writable.of_lists (hgrammar : grammar.Writable) (hlists : grammar.Lists statements) :
    ∀ statement ∈ statements, statement.Writable := by
  intro statement hstatement
  cases statement with
  | rule code given =>
      have hrule : (code, given) ∈ statements.filterMap (·.rule?) :=
        List.mem_filterMap.mpr ⟨_, hstatement, rfl⟩
      exact hgrammar.rules code given (Table.mem_entries_iff.mp (hlists.rules.mem_iff.mp hrule))
  | compounds rules =>
      have hrules : rules.Sublist grammar.compoundRules := by
        rw [← hlists.compoundRules, List.flatMap_def]
        exact List.sublist_flatten_of_mem (List.mem_map.mpr ⟨_, hstatement, rfl⟩)
      obtain ⟨hlength, htokens⟩ := hgrammar.compoundRules
      exact ⟨hrules.length_le.trans_lt hlength, fun rule hrule => htokens rule (hrules.mem hrule)⟩
  | replacement given =>
      refine hgrammar.replacements given ?_
      rw [← hlists.replacements]
      exact List.mem_filterMap.mpr ⟨_, hstatement, rfl⟩
  | setting name value =>
      have hsetting : (name, value) ∈ statements.filterMap (·.setting?) :=
        List.mem_filterMap.mpr ⟨_, hstatement, rfl⟩
      exact hgrammar.settings name value
        (Table.mem_entries_iff.mp (hlists.settings.mem_iff.mp hsetting))

/-- A grammar that can be written is read back from every text that lists it. -/
theorem read_writeAll (hgrammar : grammar.Writable) :
    grammar.Lists grammar.statements ∧
      ∀ statements, grammar.Lists statements →
        (Grammar.read (Statement.writeAll statements)).value = .ok grammar := by
  refine ⟨lists_statements grammar, fun statements hlists => ?_⟩
  rw [value_read, Statement.value_readAll_writeAll (hgrammar.of_lists hlists)]
  exact congrArg Except.ok (ofStatements_of_lists hgrammar.indexed hlists)

/-- A grammar with a rule, a compound rule, a replacement and an empty setting is read back from the
text of its statements. -/
theorem read_writeAll_mixed :
    let text :=
      "SFX BS N 1\nSFX BS y ies/P1Q [^o]y\nCOMPOUNDRULE 1\nCOMPOUNDRULE a#*\nREP ee e_\nTRY \n"
    ∃ grammar : Grammar, grammar.Writable ∧ Statement.writeAll grammar.statements = text.toList ∧
      (Grammar.read (Statement.writeAll grammar.statements)).value = .ok grammar := by
  intro text
  let grammar := (Grammar.read text.toList).value.toOption.getD .empty
  have hfacts : grammar.compoundCodes = codesOf grammar.compoundRules grammar.settings ∧
      (∀ statement ∈ grammar.statements, statement.Writable) ∧
      Statement.writeAll grammar.statements = text.toList := by decide +kernel
  obtain ⟨hcodes, hstatements, htext⟩ := hfacts
  have hgrammar := writable_of_statements (indexed_iff.mpr hcodes) hstatements
  obtain ⟨hlists, hread⟩ := read_writeAll hgrammar
  exact ⟨grammar, hgrammar, htext, hread _ hlists⟩

end Grammar

end Orthography
