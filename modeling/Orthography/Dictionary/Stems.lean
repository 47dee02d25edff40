import Orthography.Affix.Settings
import Orthography.Journal
import Orthography.Text.Basic

/-!
# Stem lists

A stem list has one stem a line, perhaps with other surface forms and with the codes of the rules
that derive its forms.
-/

namespace Orthography

/-- A stem, other forms under which it can be found, and its codes. -/
structure Entry where
  stem : Text
  variants : List Text
  codes : List Code
  deriving DecidableEq, Repr

namespace Entry

/-- Whether an entry has no codes. -/
def isBare (entry : Entry) : Bool := entry.codes.isEmpty

/-- The stem and its variants. -/
def surfaces (entry : Entry) : List Text := entry.stem :: entry.variants

/-- An entry of the given columns, unless the stem is blank.  What follows the codes behind a blank
does not count. -/
def ofColumns? (stem variants codes : Text) : Option Entry :=
  let stem := Text.trim stem
  if stem.isEmpty then none
  else some ⟨stem, Text.columns variants, Code.split ((Text.columns codes).headD [])⟩

/-- Reads a line: the stem alone, the stem and its codes, or the stem, its variants and its codes,
with slashes between them. -/
def read? (line : Text) : Option Entry :=
  match line.splitOn '/' with
  | [stem] => ofColumns? stem [] []
  | [stem, codes] => ofColumns? stem [] codes
  | [stem, variants, codes] => ofColumns? stem variants codes
  | _ => none

end Entry

/-- The entries of a stem list, in order. -/
structure Dictionary where
  entries : List Entry
  deriving DecidableEq, Repr

namespace Dictionary

/-- Whether a line is the number of entries, which the first line may give. -/
def isCount (line : Text) : Bool := (Text.natural? (Text.trim line)).isSome

/-- Whether a line is a comment. -/
def isComment (line : Text) : Bool := line.head? == some '#' || line.head? == some '\t'

/-- Reads line `number`.  Comments, blank lines and the number of entries in the first line are
passed over; a line that cannot be read is noted. -/
def readNumbered : Text × Nat → Logged (Option Entry)
  | (line, number) =>
    let trimmed := Text.trimEnd line
    if (number == 1 && isCount line) || isComment line || trimmed.isEmpty then pure none
    else match Entry.read? trimmed with
      | some entry => pure (some entry)
      | none => do
        Logged.note .warn
          s!"dictionary line {number}: malformed entry `{trimmed.string}`, skipped"
        return none

/-- Reads a stem list. -/
def read (text : Text) : Logged Dictionary :=
  Dictionary.mk <$>
    .gather (((Text.lines (Text.dropMark text)).zipIdx 1).map readNumbered)

/-- The entries that can be found under a word. -/
def lookup (dictionary : Dictionary) (word : Text) : List Entry :=
  dictionary.entries.filter (·.surfaces.contains word)

/-- The entries with a surface that a word starts with. -/
def startingWord (dictionary : Dictionary) (word : Text) : List Entry :=
  dictionary.entries.filter fun entry => entry.surfaces.any (·.isPrefixOf word)

end Dictionary

end Orthography
