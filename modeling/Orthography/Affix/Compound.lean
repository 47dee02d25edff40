import Orthography.Affix.Settings
import Orthography.Pattern.Match
import Orthography.Pattern.Reader
import Orthography.Pattern.Scan

/-!
# Compound rules

A compound rule is a pattern over codes of one character each.  Its words are those that match the
pattern in which every code stands for the alternatives of its member words; case is ignored.
-/

namespace Orthography

open Character (isBlank)
open Pattern

/-- A pattern over codes, as it is written. -/
structure CompoundRule where
  source : Text
  deriving DecidableEq, Repr

/-- A compound rule with its members filled in: the text of the pattern and the pattern. -/
structure CompoundMatcher where
  text : Text
  node : Node
  deriving DecidableEq, Repr

namespace CompoundRule

/-- The characters of a compound rule that are operators of the pattern and no codes. -/
def operators : List Char :=
  ['(', ')', '[', ']', '{', '}', '*', '+', '?', '|', '.', '^', '$', '\\']

/-- Whether a character of a compound rule is a code. -/
def isCode (c : Char) : Bool := !operators.contains c && !isBlank c

/-- The codes of a compound rule, in order and with repetitions. -/
def codes (rule : CompoundRule) : List Code :=
  (rule.source.filter isCode).map fun c => [c]

/-- Words as the alternatives of a group, each standing for itself. -/
def group (words : List Text) : Text :=
  "(?:".toList ++ ['|'].intercalate (words.map escape) ++ [')']

/-- The pattern with every code replaced by the group of its members, unless a code has none. -/
def fill? (members : Code → List Text) : Text → Option Text
  | [] => some []
  | c :: rest =>
    if isCode c then
      match members [c] with
      | [] => none
      | words => (fill? members rest).map (group words ++ ·)
    else (fill? members rest).map (c :: ·)

/-- The text of the pattern that whole words have to match, unless a code has no members. -/
def pattern? (rule : CompoundRule) (members : Code → List Text) : Option Text :=
  (fill? members rule.source).map fun body => "^(?:".toList ++ body ++ [')', '$']

/-- The matcher of a rule, unless a code has no members. -/
def compile (rule : CompoundRule) (members : Code → List Text) :
    Except Refusal (Option CompoundMatcher) :=
  match rule.pattern? members with
  | none => .ok none
  | some text => (Node.read true text).map fun node => some ⟨text, node⟩

end CompoundRule

/-- Whether a word is a compound of the rule. -/
def CompoundMatcher.isMatch (matcher : CompoundMatcher) (word : Text) : Bool :=
  matcher.node.isMatch word

end Orthography
