import Orthography.Dictionary.Frequency
import Orthography.EditDistance

/-!
# Candidates

Corrections of one word, collected from several sources.  Only words within an edit distance are
kept, each once; ranking orders them by distance, weight and spelling.
-/

namespace Orthography

/-- A correction: the word, its distance from the misspelt word, and its weight. -/
structure Suggestion where
  word : Text
  distance : Nat
  weight : Weight
  deriving DecidableEq, Repr

/-- The corrections found so far for a word. -/
structure Candidates where
  /-- The word to be corrected. -/
  word : Text
  /-- The greatest distance of a correction. -/
  limit : Nat
  list : List Suggestion
  /-- The words in the order in which they came in.  A word that comes again is looked for in the
  list at its place in this order. -/
  order : List Text
  deriving DecidableEq, Repr

namespace Candidates

/-- No corrections yet. -/
def start (word : Text) (limit : Nat) : Candidates := ⟨word, limit, [], []⟩

/-- The distance of a correction, if it is within the limit. -/
def distance? (candidates : Candidates) (correction : Text) : Option Nat :=
  Text.distanceWithin? correction candidates.word candidates.limit

/-- Lowers the distance of the suggestion at a place, if it is greater. -/
def lowerAt (list : List Suggestion) (place distance : Nat) : List Suggestion :=
  list.modify place fun suggestion =>
    { suggestion with distance := min suggestion.distance distance }

/-- Adds a correction at a known distance; says whether it is new.  Corrections beyond the limit and
the word itself are left out, and one that has come before keeps its smallest distance. -/
def addAt (candidates : Candidates) (correction : Text) (distance : Nat) : Candidates × Bool :=
  if candidates.limit < distance || correction = candidates.word then (candidates, false)
  else match candidates.order.idxOf? correction with
    | some place => ({ candidates with list := lowerAt candidates.list place distance }, false)
    | none =>
      ({ candidates with
          list := candidates.list ++ [⟨correction, distance, .zero⟩]
          order := candidates.order ++ [correction] }, true)

/-- Adds a correction, if it is within the limit; says whether it is new. -/
def add (candidates : Candidates) (correction : Text) : Candidates × Bool :=
  match candidates.distance? correction with
  | some distance => candidates.addAt correction distance
  | none => (candidates, false)

/-- Adds corrections one after the other. -/
def addAll (candidates : Candidates) (corrections : List Text) : Candidates :=
  corrections.foldl (fun candidates correction => (candidates.add correction).1) candidates

/-- Whether one suggestion ranks before another or as high: the nearer first, then the heavier, then
the one that comes first in the order of words. -/
def ranksBefore (a b : Suggestion) : Bool :=
  if a.distance ≠ b.distance then a.distance < b.distance
  else if a.weight.rank ≠ b.weight.rank then b.weight.rank < a.weight.rank
  else !b.word.before a.word

/-- Gives every suggestion its weight and puts them in order. -/
def rank (candidates : Candidates) (frequencies : Frequencies) : Candidates :=
  { candidates with
    list := (candidates.list.map fun suggestion =>
      { suggestion with weight := frequencies.foldedWeight suggestion.word }).mergeSort
        ranksBefore }

end Candidates

end Orthography
