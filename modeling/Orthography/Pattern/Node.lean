import Orthography.Character.Property

/-!
# Patterns

A pattern describes pieces of text.  Its leaves are sets of characters and conditions on the place
between two characters; they are joined in sequence, as alternatives in order of preference, and by
repetition.  Groups leave no trace: nothing is captured.
-/

namespace Orthography.Pattern

open Character

/-- A set of characters. -/
inductive CharSet where
  | chars (members : List Char)
  | range (low high : Char)
  | property (held : Property)
  | wordPart
  | union (a b : CharSet)
  | inter (a b : CharSet)
  | compl (a : CharSet)
  /-- All characters that fold like a member. -/
  | folded (a : CharSet)
  /-- The members, and the other case of each member that is an ASCII letter. -/
  | recased (a : CharSet)
  deriving DecidableEq, Repr

/-- A letter of the ASCII alphabet in its two cases; any other character alone. -/
def asciiCases (c : Char) : List Char := [c, c.toLower, c.toUpper]

/-- Whether a character is in a set. -/
def CharSet.contains : CharSet → Char → Bool
  | chars members, c => members.contains c
  | range low high, c => low ≤ c && c ≤ high
  | property held, c => held.contains c
  | wordPart, c => isWordPart c
  | union a b, c => a.contains c || b.contains c
  | inter a b, c => a.contains c && b.contains c
  | compl a, c => !a.contains c
  | folded a, c => (foldOrbit c).any a.contains
  | recased a, c => (asciiCases c).any a.contains

/-- The set without members. -/
def CharSet.none : CharSet := .chars []

/-- A condition on a place in a text. -/
inductive Place where
  | textStart
  | textEnd
  /-- The start of the text or the place after a line feed. -/
  | lineStart
  /-- The end of the text or the place before a line feed. -/
  | lineEnd
  /-- Like `lineStart`, with a carriage return and line feed together or either alone. -/
  | returnStart
  /-- Like `lineEnd`, with a carriage return and line feed together or either alone. -/
  | returnEnd
  /-- A place with a word part on one side only; `ascii` counts ASCII word parts alone. -/
  | boundary (ascii : Bool)
  | notBoundary (ascii : Bool)
  | wordStart (ascii : Bool)
  | wordEnd (ascii : Bool)
  | wordStartHalf (ascii : Bool)
  | wordEndHalf (ascii : Bool)
  deriving DecidableEq, Repr

/-- The structure of a pattern. -/
inductive Node where
  | empty
  | char (set : CharSet)
  | place (condition : Place)
  | seq (first second : Node)
  | alt (preferred other : Node)
  /-- At least `least` and, if there is a limit, at most `most` times the body; as often as possible
  if `greedy`, as seldom as possible otherwise. -/
  | repeated (body : Node) (least : Nat) (most : Option Nat) (greedy : Bool)
  deriving DecidableEq, Repr

/-- The pattern that matches nothing. -/
def Node.never : Node := .char .none

end Orthography.Pattern
