import Orthography.Text.Basic

/-!
# Edit distance

The least number of insertions, deletions and substitutions of one character that turn one word into
another, found row by row: entry `j` of the row after `i` characters of the first word is the
distance from these to the first `j` characters of the second.  A bound lets the scan stop at a row
whose entries all exceed it.
-/

namespace Orthography

namespace EditDistance

/-- The entries of the next row to the right of `left`, for the rest of the second word and the part
of the row above from the entry over `left` on. -/
def extendRow (c : Char) : Text → List Nat → Nat → List Nat
  | d :: word, diagonal :: above :: row, left =>
    let entry := min (min (above + 1) (left + 1)) (diagonal + if c = d then 0 else 1)
    entry :: extendRow c word (above :: row) entry
  | _, _, _ => []

/-- The row after one more character `c` of the first word. -/
def nextRow (c : Char) (word : Text) (row : List Nat) : List Nat :=
  let first := row.headD 0 + 1
  first :: extendRow c word row first

/-- The row before any character of the first word: the lengths of the starts of the second. -/
def firstRow (word : Text) : List Nat := List.range (word.length + 1)

/-- The row after all of the first word. -/
def lastRow (word : Text) (row : List Nat) (other : Text) : List Nat :=
  other.foldl (fun row c => nextRow c word row) row

/-- The row after all of the first word, unless every entry of some row exceeds the bound. -/
def lastRowWithin? (bound : Nat) (word : Text) : List Nat → Text → Option (List Nat)
  | row, [] => some row
  | row, c :: other =>
    let next := nextRow c word row
    if next.all (bound < ·) then none else lastRowWithin? bound word next other

end EditDistance

namespace Text

open EditDistance

/-- The edit distance between two words. -/
def distance (a b : Text) : Nat :=
  (lastRow b (firstRow b) a).getLast?.getD 0

/-- The edit distance between two words if it is at most `bound`.  Lengths that differ by more than
the bound are told apart at once. -/
def distanceWithin? (a b : Text) (bound : Nat) : Option Nat :=
  if bound < max (a.length - b.length) (b.length - a.length) then none
  else
    let found := (lastRowWithin? bound b (firstRow b) a).map fun row => row.getLast?.getD 0
    found.filter (· ≤ bound)

end Text

end Orthography
