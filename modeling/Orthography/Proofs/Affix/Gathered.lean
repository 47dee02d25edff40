import Orthography.Proofs.Affix.Blocks
import Orthography.Proofs.Table

/-!
# What statements say together

Each statement of an affix file adds to one part of the grammar.  So the grammar of a list of
statements is made of what they say about each part (`Grammar.foldl_add`), and its codes are those
that the parts speak of (`Grammar.indexed_ofStatements`).
-/

namespace Orthography

namespace Statement

/-- The rule that a statement gives, with its code. -/
@[simp] def rule? : Statement → Option (Code × AffixRule)
  | rule code given => some (code, given)
  | compounds _ | replacement _ | setting _ _ => none

/-- The compound rules that a statement gives. -/
@[simp] def compoundRules : Statement → List CompoundRule
  | compounds rules => rules
  | rule _ _ | replacement _ | setting _ _ => []

/-- The replacement that a statement gives. -/
@[simp] def replacement? : Statement → Option Replacement
  | replacement given => some given
  | rule _ _ | compounds _ | setting _ _ => none

/-- The value that a statement gives, with its name. -/
@[simp] def setting? : Statement → Option (Text × Text)
  | setting name value => some (name, value)
  | rule _ _ | compounds _ | replacement _ => none

end Statement

namespace Grammar

variable {grammar : Grammar}

/-- Statements add to each part of a grammar what they say about it. -/
theorem foldl_add (grammar : Grammar) (statements : List Statement) :
    statements.foldl add grammar =
      { grammar with
        rules := grammar.rules.insertAll (statements.filterMap (·.rule?))
        compoundRules := grammar.compoundRules ++ statements.flatMap (·.compoundRules)
        replacements := grammar.replacements ++ statements.filterMap (·.replacement?)
        settings := ⟨grammar.settings.values.insertAll (statements.filterMap (·.setting?))⟩ } := by
  induction statements generalizing grammar with
  | nil => simp [Table.insertAll]
  | cons statement statements ih =>
      rw [List.foldl_cons, ih]
      cases statement with
      | rule code given => rfl
      | compounds rules => simp [add]
      | replacement given => simp [add]
      | setting name value => rfl

/-- The codes of a grammar are in order, and they are those of its compound rules and the code for
words that are valid in compounds only, if one is set. -/
structure Indexed (grammar : Grammar) : Prop where
  ordered : grammar.compoundCodes.Pairwise fun a b => a.before b = true
  mem_iff : ∀ code, code ∈ grammar.compoundCodes ↔
    (∃ rule ∈ grammar.compoundRules, code ∈ rule.codes) ∨
      code ≠ [] ∧ grammar.settings.get? Settings.onlyInCompound = some code

/-- There is one way to index a grammar. -/
theorem indexed_iff :
    grammar.Indexed ↔ grammar.compoundCodes = codesOf grammar.compoundRules grammar.settings := by
  have hspoken (code : Code) :
      code ∈ grammar.compoundRules.flatMap (·.codes) ++
          (grammar.settings.get? Settings.onlyInCompound).toList.filter (!·.isEmpty) ↔
        (∃ rule ∈ grammar.compoundRules, code ∈ rule.codes) ∨
          code ≠ [] ∧ grammar.settings.get? Settings.onlyInCompound = some code := by
    simp [and_comm]
  rw [codesOf, eq_sortedWords_iff]
  simp only [hspoken]
  exact ⟨fun hindexed => ⟨hindexed.ordered, hindexed.mem_iff⟩, fun h => ⟨h.1, h.2⟩⟩

/-- The grammar of a list of statements is indexed. -/
theorem indexed_ofStatements (statements : List Statement) :
    (ofStatements statements).Indexed := by
  rw [indexed_iff]
  rfl

/-- What a file is read as. -/
theorem value_read (text : Text) :
    (read text).value = (Statement.readAll text).value.map ofStatements := by
  rw [read, Logged.value_bind]
  cases (Statement.readAll text).value <;> rfl

/-- A grammar that is read is that of the statements of its file. -/
theorem exists_readAll_of_read {text : Text} (hread : (read text).value = .ok grammar) :
    ∃ statements, (Statement.readAll text).value = .ok statements ∧
      ofStatements statements = grammar := by
  rw [value_read] at hread
  exact Statement.exists_of_map_eq_ok hread

/-- A grammar that is read is indexed. -/
theorem indexed_of_read {text : Text} (hread : (read text).value = .ok grammar) :
    grammar.Indexed := by
  obtain ⟨statements, -, rfl⟩ := exists_readAll_of_read hread
  exact indexed_ofStatements statements

end Grammar

end Orthography
