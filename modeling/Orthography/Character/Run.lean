/-!
# Runs of characters

Compact forms for the tables of the character database.  A `Run` is an interval of code points,
perhaps with every second one left out; a `Shift` moves each code point of a run by the same
distance; a list of stretches gives the lengths of successive intervals.  The smallest of the tables
is that of the blanks, which separate the columns of a line and are cut from both ends of a word.
-/

namespace Orthography.Character

/-- The code points `first`, `first + step`, …, `last`. -/
structure Run where
  first : Nat
  last : Nat
  step : Nat

/-- A code point is in a run if it is in the interval and a whole number of steps from its start. -/
def Run.contains (run : Run) (code : Nat) : Bool :=
  run.first ≤ code && code ≤ run.last && (code - run.first) % run.step == 0

/-- Whether a character is in one of some runs. -/
def inRuns (runs : List Run) (c : Char) : Bool := runs.any (·.contains c.toNat)

/-- The characters with the `White_Space` property. -/
def blankRuns : List Run := [
  ⟨0x20, 0x20, 1⟩, ⟨0x9, 0xD, 1⟩, ⟨0x85, 0x85, 1⟩, ⟨0xA0, 0xA0, 1⟩, ⟨0x1680, 0x1680, 1⟩,
  ⟨0x2000, 0x200A, 1⟩, ⟨0x2028, 0x2029, 1⟩, ⟨0x202F, 0x202F, 1⟩, ⟨0x205F, 0x205F, 1⟩,
  ⟨0x3000, 0x3000, 1⟩]

/-- Whether a character is a blank. -/
def isBlank (c : Char) : Bool :=
  blankRuns.any (·.contains c.toNat)

/-- A run whose code points all move by the same distance, the first of them to `target`. -/
structure Shift where
  run : Run
  target : Nat

/-- Where a shift moves a code point of its run. -/
def Shift.image (shift : Shift) (code : Nat) : Nat :=
  shift.target + (code - shift.run.first)

/-- The code point that a shift moves to `code`, if its run holds it. -/
def Shift.source? (shift : Shift) (code : Nat) : Option Nat :=
  let source := shift.run.first + (code - shift.target)
  if shift.target ≤ code && shift.run.contains source then some source else none

/-- Going back from an image finds the code point it came from. -/
theorem Shift.source?_image {shift : Shift} {code : Nat} (inside : shift.run.contains code = true) :
    shift.source? (shift.image code) = some code := by
  have low : shift.run.first ≤ code := by
    simp only [Run.contains, Bool.and_eq_true, decide_eq_true_eq] at inside
    exact inside.1.1
  have back : shift.run.first + (shift.image code - shift.target) = code := by
    simp only [Shift.image]
    omega
  have above : shift.target ≤ shift.image code := Nat.le_add_right ..
  simp [Shift.source?, back, above, inside]

/-- Where the first shift that holds a code point moves it, if there is one. -/
def shiftOf? (shifts : List Shift) (code : Nat) : Option Nat :=
  (shifts.find? (·.run.contains code)).map (·.image code)

/-- The code points that some shift of the list might move to `code`. -/
def shiftSources (shifts : List Shift) (code : Nat) : List Nat :=
  shifts.filterMap (·.source? code)

/-- A code point that is moved to `code` is listed among the sources of `code`. -/
theorem mem_shiftSources {shifts : List Shift} {source code : Nat}
    (moved : shiftOf? shifts source = some code) : source ∈ shiftSources shifts code := by
  obtain ⟨shift, found, rfl⟩ := Option.map_eq_some_iff.1 moved
  have inside : shift.run.contains source = true := by simpa using List.find?_some found
  exact List.mem_filterMap.2 ⟨shift, List.mem_of_find?_eq_some found, Shift.source?_image inside⟩

/-- The number that is one digit longer. -/
def withDigit (number : Nat) (digit : Char) : Nat := 10 * number + (digit.toNat - '0'.toNat)

/-- Reads numbers with a blank between them, of which the first has been read in part. -/
def readNumbers (number : Nat) : List Char → List Nat
  | [] => [number]
  | c :: rest =>
    if c = ' ' then number :: readNumbers 0 rest else readNumbers (withDigit number c) rest

/-- Reads rows of lengths of stretches. -/
def readStretches (rows : List String) : List Nat :=
  rows.flatMap fun row => readNumbers 0 row.toList

/-- Whether a code point lies inside, for alternating lengths of stretches outside and inside. -/
def insideStretches : List Nat → Nat → Bool
  | outside :: inside :: rest, code =>
    if code < outside then false
    else if code < outside + inside then true
    else insideStretches rest (code - outside - inside)
  | _, _ => false

/-- Reads numbers, each with a tag behind it, with a blank between them; of the first the number and
the tag, last character first, have been read in part. -/
def readTaggedNumbers (number : Nat) (tag : List Char) : List Char → List (Nat × String)
  | [] => [(number, String.ofList tag.reverse)]
  | c :: rest =>
    if c = ' ' then (number, String.ofList tag.reverse) :: readTaggedNumbers 0 [] rest
    else if c.isDigit then readTaggedNumbers (withDigit number c) tag rest
    else readTaggedNumbers number (c :: tag) rest

/-- Reads rows of tagged lengths of stretches. -/
def readTagged (rows : List String) : List (Nat × String) :=
  rows.flatMap fun row => readTaggedNumbers 0 [] row.toList

/-- The tag of the stretch that a code point lies in. -/
def tagOf? : List (Nat × String) → Nat → Option String
  | [], _ => none
  | (length, tag) :: rest, code => if code < length then some tag else tagOf? rest (code - length)

end Orthography.Character
