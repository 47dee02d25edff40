import Orthography.Affix.Settings
import Orthography.Affix.Statement

/-!
# Affix grammars

What the statements of an affix file say together: rules by code, compound rules, replacements and
settings.  A later rule or setting replaces an earlier one with the same name.
-/

namespace Orthography

/-- The content of an affix file. -/
structure Grammar where
  rules : Table AffixRule
  compoundRules : List CompoundRule
  /-- The codes of the compound rules and the code for words that are valid in compounds only. -/
  compoundCodes : List Code
  replacements : List Replacement
  settings : Settings
  deriving DecidableEq

namespace Grammar

/-- The grammar of an empty file. -/
def empty : Grammar := ⟨∅, [], [], [], .empty⟩

/-- A grammar with one more statement. -/
def add (grammar : Grammar) : Statement → Grammar
  | .rule code rule => { grammar with rules := grammar.rules.insert code rule }
  | .compounds rules => { grammar with compoundRules := grammar.compoundRules ++ rules }
  | .replacement replacement =>
    { grammar with replacements := grammar.replacements ++ [replacement] }
  | .setting name value => { grammar with settings := grammar.settings.insert name value }

/-- The codes that compound rules and settings speak of, in order. -/
def codesOf (rules : List CompoundRule) (settings : Settings) : List Code :=
  let only := (settings.get? Settings.onlyInCompound).toList.filter (!·.isEmpty)
  sortedWords (rules.flatMap (·.codes) ++ only)

/-- The grammar of a list of statements. -/
def ofStatements (statements : List Statement) : Grammar :=
  let grammar := statements.foldl add empty
  { grammar with compoundCodes := codesOf grammar.compoundRules grammar.settings }

/-- The summary of a grammar in the journal. -/
def summary (grammar : Grammar) : String :=
  s!"compiled {grammar.rules.size} affix rules, {grammar.compoundRules.length} compound rules, " ++
    s!"{grammar.replacements.length} replacements, {grammar.settings.values.size} flags"

/-- Reads an affix file. -/
def read (text : Text) : Logged (Except TruncatedBlock Grammar) := do
  match ← Statement.readAll text with
  | .error block => return .error block
  | .ok statements =>
    let grammar := ofStatements statements
    Logged.note .debug grammar.summary
    return .ok grammar

/-- The rule with a code. -/
def rule? (grammar : Grammar) (code : Code) : Option AffixRule := grammar.rules.get? code

end Grammar

end Orthography
