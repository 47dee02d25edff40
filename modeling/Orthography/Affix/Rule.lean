import Orthography.Affix.Condition
import Orthography.Affix.Settings
import Orthography.Text.Basic

/-!
# Affix rules

A rule derives forms from a stem: each of its entries, if its condition admits the stem, takes
something away at one end and adds something there.  `Removal.reach` bounds how much is taken away.
-/

namespace Orthography

/-- The end of a stem to which a rule adds. -/
inductive AffixKind where
  /-- The rule puts its addition in front of the stem. -/
  | leading
  /-- The rule puts its addition behind the stem. -/
  | trailing
  deriving DecidableEq, Repr

namespace AffixKind

/-- The word that marks the lines of a rule. -/
def marker : AffixKind → Text
  | leading => ['P', 'F', 'X']
  | trailing => ['S', 'F', 'X']

/-- The kind of rule that a word marks. -/
def ofMarker? (word : Text) : Option AffixKind :=
  if word = marker leading then some leading
  else if word = marker trailing then some trailing
  else none

/-- The kind of a marker is the kind marked. -/
@[simp] theorem ofMarker?_marker (kind : AffixKind) : ofMarker? kind.marker = some kind := by
  cases kind <;> rfl

/-- The end of a stem that the conditions of a rule look at. -/
def anchor : AffixKind → Anchor
  | leading => .start
  | trailing => .stop

end AffixKind

/-- A bound that says nothing; sums of bounds stop here. -/
def unlimited : Nat := countLimit - 1

/-- The sum of two bounds. -/
def addBounds (a b : Nat) : Nat := min (a + b) unlimited

/-- What an entry takes away before it adds. -/
inductive Removal where
  /-- The leftmost match of a pattern at the end of the stem. -/
  | trailing (condition : Condition)
  /-- These characters at the start of the stem. -/
  | leading (text : Text)
  deriving DecidableEq

namespace Removal

/-- A stem without what is to be taken away; a stem that does not have it stays as it is. -/
def apply : Removal → Text → Text
  | trailing condition, stem => condition.strip stem
  | leading text, stem => (text.isPrefixOf? stem).getD stem

/-- Whether a written pattern has neither repetitions nor alternatives, so that it matches no more
characters than it is written with. -/
def isFixedWidth : Text → Bool
  | '\\' :: _ :: rest => isFixedWidth rest
  | c :: rest => !(['*', '+', '?', '{', '|'].contains c) && isFixedWidth rest
  | [] => true

/-- How many characters can be taken away at most. -/
def reach : Removal → Nat
  | trailing condition =>
    if isFixedWidth condition.source then min condition.source.length unlimited else unlimited
  | leading text => min text.length unlimited

end Removal

/-- One way in which a rule derives a form. -/
structure AffixEntry where
  add : Text
  remove : Option Removal
  condition : Option Condition
  /-- The codes of rules that may be applied to the form. -/
  continuation : List Code
  deriving DecidableEq

namespace AffixEntry

/-- Whether the condition of an entry admits a stem. -/
def admits (entry : AffixEntry) (stem : Text) : Bool :=
  entry.condition.all (·.isMatch stem)

/-- A stem without what an entry takes away. -/
def base (entry : AffixEntry) (stem : Text) : Text :=
  match entry.remove with
  | some removal => removal.apply stem
  | none => stem

/-- The form that an entry derives from a stem, if it admits it. -/
def derive? (entry : AffixEntry) (kind : AffixKind) (stem : Text) : Option Text :=
  if entry.admits stem then
    match kind with
    | .trailing => some (entry.base stem ++ entry.add)
    | .leading => some (entry.add ++ entry.base stem)
  else none

end AffixEntry

/-- A rule: where it adds, whether its forms may be combined with those of other rules, which is
advice only, and its entries. -/
structure AffixRule where
  kind : AffixKind
  combinable : Bool
  entries : List AffixEntry
  deriving DecidableEq

/-- The forms that a rule derives from a stem by one entry each. -/
def AffixRule.forms (rule : AffixRule) (stem : Text) : List Text :=
  rule.entries.filterMap (·.derive? rule.kind stem)

end Orthography
