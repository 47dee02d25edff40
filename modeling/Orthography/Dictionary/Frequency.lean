import Orthography.Dictionary.Weight
import Orthography.Journal
import Orthography.Table
import Orthography.Text.Case

/-!
# Frequencies

A list of words with their weights, used to choose among corrections that are equally near.
-/

namespace Orthography

/-- The weights of words. -/
structure Frequencies where
  weights : Table Weight
  deriving DecidableEq

namespace Frequencies

/-- The list without words. -/
def empty : Frequencies := ⟨∅⟩

/-- Gives a word its weight, in the stead of an earlier one. -/
def insert (frequencies : Frequencies) (word : Text) (weight : Weight) : Frequencies :=
  ⟨frequencies.weights.insert word weight⟩

/-- The weight of a word; words that are not listed weigh nothing. -/
def weight (frequencies : Frequencies) (word : Text) : Weight :=
  (frequencies.weights.get? word).getD .zero

/-- The weight of a word, or of its lower-case form if it is not listed. -/
def foldedWeight (frequencies : Frequencies) (word : Text) : Weight :=
  match frequencies.weights.get? word with
  | some weight => weight
  | none => frequencies.weight word.lower

/-- Reads a line: a word, a tab and a finite weight; further columns do not count. -/
def readLine? (line : Text) : Option (Text × Weight) :=
  match line.splitOn '\t' with
  | word :: number :: _ =>
    let word := Text.trim word
    match Weight.read? (Text.trim number) with
    | some weight => if !word.isEmpty && weight.isFinite then some (word, weight) else none
    | none => none
  | _ => none

/-- Reads line `number`; a blank line is passed over, and one that cannot be read is noted. -/
def readNumbered : Text × Nat → Logged (Option (Text × Weight))
  | (line, number) =>
    if Text.isBlankLine line then pure none
    else match readLine? line with
      | some entry => pure (some entry)
      | none => do
        Logged.note .warn s!"wordlist line {number}: unparsable entry, skipped"
        return none

/-- Reads a list of words with their weights; the last weight of a word counts. -/
def read (text : Text) : Logged Frequencies :=
  (fun entries => ⟨.ofList entries⟩) <$> .gather (((Text.lines text).zipIdx 1).map readNumbered)

end Frequencies

end Orthography
