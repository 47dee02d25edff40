import Orthography.Pattern.Node

/-!
# Matching

Where a pattern can end when it starts at a given position of a text, in order of preference.  The
first alternative is preferred to the second, and a greedy repetition prefers one more turn.  Each
end is listed once, so the number of ends is bounded by the length of the text.

A repetition that can match nothing takes at most one empty turn, and only as its first.
-/

namespace Orthography.Pattern

open Character (isWordPart)

/-- Whether a character is a word part, of all characters or of ASCII alone. -/
def isWord (ascii : Bool) (c : Char) : Bool :=
  if ascii then c.isAlphanum || c == '_' else isWordPart c

/-- Whether the character at a position, if there is one, has a property. -/
def holdsAt (text : Array Char) (position : Nat) (holds : Char → Bool) : Bool :=
  text[position]?.any holds

/-- Whether the character before a position, if there is one, has a property. -/
def holdsBefore (text : Array Char) (position : Nat) (holds : Char → Bool) : Bool :=
  0 < position && holdsAt text (position - 1) holds

/-- Whether a condition holds at a position of a text. -/
def Place.holds (text : Array Char) (position : Nat) : Place → Bool
  | textStart => position == 0
  | textEnd => position == text.size
  | lineStart => position == 0 || holdsBefore text position (· == '\n')
  | lineEnd => position == text.size || holdsAt text position (· == '\n')
  | returnStart =>
    position == 0 || holdsBefore text position (· == '\n') ||
      (holdsBefore text position (· == '\r') && !holdsAt text position (· == '\n'))
  | returnEnd =>
    position == text.size || holdsAt text position (· == '\r') ||
      (holdsAt text position (· == '\n') && !holdsBefore text position (· == '\r'))
  | boundary ascii =>
    holdsBefore text position (isWord ascii) != holdsAt text position (isWord ascii)
  | notBoundary ascii =>
    holdsBefore text position (isWord ascii) == holdsAt text position (isWord ascii)
  | wordStart ascii =>
    !holdsBefore text position (isWord ascii) && holdsAt text position (isWord ascii)
  | wordEnd ascii =>
    holdsBefore text position (isWord ascii) && !holdsAt text position (isWord ascii)
  | wordStartHalf ascii => !holdsBefore text position (isWord ascii)
  | wordEndHalf ascii => !holdsAt text position (isWord ascii)

/-- Ends reached by going on, and the end reached by stopping here, in order of preference. -/
def prefer (greedy : Bool) (further : List Nat) (here : Nat) : List Nat :=
  (if greedy then further ++ [here] else here :: further).eraseDups

/-- The ends of any number of turns that each take up characters, from the `count + 1` last
positions of a text of the given size, the first of them first. -/
def turnsTable (turn : Nat → List Nat) (greedy : Bool) (size : Nat) : Nat → List (List Nat)
  | 0 => [[size]]
  | count + 1 =>
    let later := turnsTable turn greedy size count
    let position := size - (count + 1)
    let further := ((turn position).filter (position < ·)).flatMap fun next =>
      later.getD (next - position - 1) []
    prefer greedy further position :: later

/-- The ends of any number of turns that each take up characters. -/
def turns (turn : Nat → List Nat) (greedy : Bool) (size position : Nat) : List Nat :=
  (turnsTable turn greedy size (size - position)).headD []

/-- The ends of at least one turn, of which the first may be empty. -/
def someTurns (turn : Nat → List Nat) (greedy : Bool) (size position : Nat) : List Nat :=
  ((turn position).flatMap fun next =>
    if next = position then [position] else turns turn greedy size next).eraseDups

/-- The ends of exactly `count` turns from any of the given positions. -/
def exactTurns (turn : Nat → List Nat) : Nat → List Nat → List Nat
  | 0, positions => positions
  | _ + 1, [] => []
  | count + 1, positions => exactTurns turn count (positions.flatMap turn).eraseDups

/-- The ends of at most `count` turns, from every position of a text of the given size. -/
def fewTurnsTable (turn : Nat → List Nat) (greedy : Bool) (size : Nat) : Nat → List (List Nat)
  | 0 => (List.range (size + 1)).map fun position => [position]
  | count + 1 =>
    let fewer := fewTurnsTable turn greedy size count
    (List.range (size + 1)).map fun position =>
      prefer greedy ((turn position).flatMap fun next => fewer.getD next []) position

/-- The ends of at most `count` turns. -/
def fewTurns (turn : Nat → List Nat) (greedy : Bool) (size count position : Nat) : List Nat :=
  (fewTurnsTable turn greedy size count).getD position []

/-- The ends of a repetition. -/
def repetitionEnds (turn : Nat → List Nat) (least : Nat) (most : Option Nat) (greedy : Bool)
    (size position : Nat) : List Nat :=
  match least, most with
  | 0, none => prefer greedy (someTurns turn greedy size position) position
  | least + 1, none =>
    ((exactTurns turn least [position]).flatMap (someTurns turn greedy size)).eraseDups
  | least, some most =>
    let begun := exactTurns turn least [position]
    if most ≤ least then begun
    else (begun.flatMap (fewTurns turn greedy size (most - least))).eraseDups

/-- Where a pattern can end if it starts at a position, the preferred end first. -/
def Node.ends (text : Array Char) : Node → Nat → List Nat
  | empty, position => [position]
  | char set, position => if holdsAt text position set.contains then [position + 1] else []
  | place condition, position => if condition.holds text position then [position] else []
  | seq first second, position =>
    ((first.ends text position).flatMap (second.ends text)).eraseDups
  | alt preferred other, position =>
    (preferred.ends text position ++ other.ends text position).eraseDups
  | repeated body least most greedy, position =>
    repetitionEnds (body.ends text) least most greedy text.size position

/-- The first of the given starts from which a pattern matches, with its preferred end. -/
def Node.findFrom? (node : Node) (text : Array Char) : List Nat → Option (Nat × Nat)
  | [] => none
  | start :: starts =>
    match (node.ends text start).head? with
    | some stop => some (start, stop)
    | none => node.findFrom? text starts

/-- The leftmost match of a pattern in a text, with its preferred end. -/
def Node.find? (node : Node) (word : List Char) : Option (Nat × Nat) :=
  node.findFrom? word.toArray (List.range (word.length + 1))

/-- Whether a pattern matches somewhere in a text. -/
def Node.isMatch (node : Node) (word : List Char) : Bool := (node.find? word).isSome

/-- A text without the leftmost match of a pattern. -/
def Node.strip (node : Node) (word : List Char) : List Char :=
  match node.find? word with
  | some (start, stop) => word.take start ++ word.drop stop
  | none => word

end Orthography.Pattern
