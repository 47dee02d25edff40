import Orthography.Affix.Condition
import Orthography.Journal

/-!
# Normalization

Some words start with something that can be replaced to give a word that is known.  The rules are
tried in order, each on what the earlier ones have left; a rule may ask of its result that it meets
a condition, and a result that does not is no word at all.
-/

namespace Orthography

open Pattern (Refusal)

/-- What a word may start with, what is put in its place, and what the result has to meet. -/
structure NormalizationRule where
  lead : Text
  replacement : Text
  condition : Option Condition
  deriving DecidableEq

/-- What the rules make of a word. -/
inductive Normalized where
  /-- No rule applies. -/
  | unchanged
  /-- A rule applies, but its result does not meet the condition. -/
  | rejected
  /-- What is left after the rules that apply. -/
  | stripped (word : Text)
  deriving DecidableEq, Repr

namespace NormalizationRule

/-- A rule with a written condition. -/
def ofSource (lead replacement : Text) : Option Text → Except Refusal NormalizationRule
  | none => .ok ⟨lead, replacement, none⟩
  | some source => (Condition.ofSource source .start).map fun condition =>
      ⟨lead, replacement, some condition⟩

/-- The result of a rule that applies to a word. -/
def result? (rule : NormalizationRule) (word : Text) : Option Text :=
  (rule.lead.isPrefixOf? word).map (rule.replacement ++ ·)

/-- Applies rules in order, where `changed` says whether one has applied before. -/
def normalizeFrom (changed : Bool) (word : Text) : List NormalizationRule → Normalized
  | [] => if changed then .stripped word else .unchanged
  | rule :: rest =>
    match rule.result? word with
    | none => normalizeFrom changed word rest
    | some next =>
      if rule.condition.all (·.isMatch next) then normalizeFrom true next rest else .rejected

/-- What rules make of a word. -/
def normalize (rules : List NormalizationRule) (word : Text) : Normalized :=
  normalizeFrom false word rules

/-- Reads line `number`: what words start with, the replacement, where `0` stands for nothing, and
the condition, where a point stands for none, with tabs between them.  Comments and blank lines are
passed over, and lines that cannot be read are noted. -/
def readNumbered : Text × Nat → Logged (Option NormalizationRule)
  | (line, number) =>
    if Text.isBlankLine line || line.head? == some '#' then pure none
    else
      let fields := (line.splitOn '\t').map Text.trim
      let lead := fields.headD []
      let replacement := fields[1]?.getD []
      let condition := fields[2]?.getD []
      if lead.isEmpty then do
        Logged.note .warn s!"prefix rules line {number}: empty prefix, skipped"
        return none
      else
        match ofSource lead (if replacement = ['0'] then [] else replacement)
          (if condition.isEmpty || condition = ['.'] then none else some condition) with
        | .ok rule => pure (some rule)
        | .error refusal => do
          Logged.note .warn s!"prefix rules line {number}: {refusal.message}; skipped"
          return none

/-- Reads a list of rules. -/
def readAll (text : Text) : Logged (List NormalizationRule) :=
  .gather (((Text.lines text).zipIdx 1).map readNumbered)

end NormalizationRule

end Orthography
