import Orthography.Pattern.Match
import Orthography.Pattern.Reader
import Orthography.Pattern.Scan

/-!
# Conditions

A condition is a pattern that has to match at one end of a word.  It is written without its anchor,
which is added before the text is read.  Reading is part of the type: two conditions with the same
text and the same anchor are equal.
-/

namespace Orthography

open Pattern

/-- The end of a word at which a condition has to match. -/
inductive Anchor where
  | start
  | stop
  deriving DecidableEq, Repr

/-- A written condition with its anchor, as a pattern. -/
def Anchor.frame : Anchor → Text → Text
  | start, source => "^(?:".toList ++ source ++ [')']
  | stop, source => "(?:".toList ++ source ++ [')', '$']

/-- A pattern that has to match at one end of a word, with the text that it was read from. -/
structure Condition where
  source : Text
  anchor : Anchor
  node : Node
  read : Node.read false (anchor.frame source) = .ok node

namespace Condition

/-- Conditions with the same text and anchor are equal. -/
theorem ext_source {a b : Condition} (sources : a.source = b.source)
    (anchors : a.anchor = b.anchor) : a = b := by
  obtain ⟨source, anchor, node, read⟩ := a
  obtain ⟨_, _, other, reread⟩ := b
  obtain rfl : source = _ := sources
  obtain rfl : anchor = _ := anchors
  have same : Except.ok node = Except.ok other := read.symm.trans reread
  cases same
  rfl

instance : DecidableEq Condition := fun a b =>
  decidable_of_iff (a.source = b.source ∧ a.anchor = b.anchor)
    ⟨fun h => ext_source h.1 h.2, fun h => h ▸ ⟨rfl, rfl⟩⟩

/-- Reads a condition. -/
def ofSource (source : Text) (anchor : Anchor) : Except Refusal Condition :=
  match read : Node.read false (anchor.frame source) with
  | .ok node => .ok ⟨source, anchor, node, read⟩
  | .error refusal => .error refusal

/-- The condition that a word starts or ends with a text. -/
def literal (text : Text) (anchor : Anchor) : Except Refusal Condition :=
  ofSource (escape text) anchor

/-- Whether a word meets a condition. -/
def isMatch (condition : Condition) (word : Text) : Bool := condition.node.isMatch word

/-- A word without the leftmost match of a condition. -/
def strip (condition : Condition) (word : Text) : Text := condition.node.strip word

end Condition

end Orthography
