import Orthography.Table
import Orthography.Text.Basic

/-!
# Codes and settings

A code names an affix rule or marks an entry.  Codes stand side by side without a separator, two
characters each; a last character left over is a code of its own.

Settings are the lines of an affix file that give a name one value.  Some name the code that marks
entries in a certain way; names that mean nothing to the checker are kept all the same.
-/

namespace Orthography

/-- The name of a rule or a mark. -/
abbrev Code := Text

namespace Code

/-- The number of characters in a code. -/
def width : Nat := 2

/-- The code that marks an entry but names no rule, and is passed over wherever it stands. -/
def sentinel : Code := ['V', '2']

/-- The codes of a field. -/
def split : Text → List Code
  | a :: b :: rest => [a, b] :: split rest
  | [a] => [[a]]
  | [] => []

end Code

/-- Values by name; a later value for a name replaces an earlier one. -/
structure Settings where
  values : Table Text
  deriving DecidableEq

namespace Settings

/-- No settings. -/
def empty : Settings := ⟨∅⟩

/-- The setting of the code for words that are valid inside compounds only. -/
def onlyInCompound : Text := "ONLYINCOMPOUND".toList

/-- The setting of the code for words that are never suggested. -/
def noSuggest : Text := "NOSUGGEST".toList

/-- The setting of the least length of a word in a compound. -/
def compoundMinName : Text := "COMPOUNDMIN".toList

/-- The setting of the code for words that keep their case. -/
def keepCase : Text := "KEEPCASE".toList

/-- The setting of the code for stems that are no words without an affix. -/
def needAffix : Text := "NEEDAFFIX".toList

/-- Gives a name its value. -/
def insert (settings : Settings) (name value : Text) : Settings :=
  ⟨settings.values.insert name value⟩

/-- The value of a name. -/
def get? (settings : Settings) (name : Text) : Option Text := settings.values.get? name

/-- The least length of a word in a compound, if it is set to a number. -/
def compoundMin? (settings : Settings) : Option Nat :=
  (settings.get? compoundMinName).bind Text.count?

/-- Whether codes contain the one that a setting names; an empty value names none. -/
def marks (settings : Settings) (name : Text) (codes : List Code) : Bool :=
  match settings.get? name with
  | some value => !value.isEmpty && codes.contains value
  | none => false

end Settings

end Orthography
