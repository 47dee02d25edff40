import Orthography.Character.Case
import Orthography.Character.CategoryData
import Orthography.Character.FlagData
import Orthography.Character.ScriptData

/-!
# Flags of characters

The category and the script of a character, and its flags: the properties that it has or lacks.
Flags that follow from the category or from the case of a character are computed, the others are
listed (`listedFlags`).
-/

namespace Orthography.Character

/-- Whether a character has the `Alphabetic` property. -/
def isAlphabetic (c : Char) : Bool :=
  insideStretches alphabeticStretches c.toNat

/-- The two-letter general category of a character. -/
def category (c : Char) : String :=
  (tagOf? categoryStretches c.toNat).getD "Cn"

/-- Whether the general category of a character is one of some. -/
def hasCategory (tags : List String) (c : Char) : Bool := tags.contains (category c)

/-- The four-letter script of a character. -/
def script (c : Char) : String :=
  (tagOf? scriptStretches c.toNat).getD "Zzzz"

/-- Whether a character is used in a script: one of those that share it, or else its own.  Every tag
starts with a capital. -/
def isUsedIn (tag : String) (c : Char) : Bool :=
  match tagOf? sharedScriptStretches c.toNat with
  | none | some "-" => script c == tag
  | some tags => (tags.toList.splitBy fun _ d => !d.isUpper).contains tag.toList

/-- Whether a character is alphabetic or any kind of number. -/
def isAlphanumeric (c : Char) : Bool :=
  isAlphabetic c || hasCategory ["Nd", "Nl", "No"] c

/-- Whether a character is part of a word: a letter, a mark, a digit, a connector or a joiner. -/
def isWordPart (c : Char) : Bool :=
  isAlphabetic c || hasCategory ["Mn", "Mc", "Me", "Nd", "Pc"] c ||
    c.toNat == 0x200C || c.toNat == 0x200D

/-- What a table has in the row with a name. -/
def lookupName {α : Type} (table : List (List String × α)) (name : String) : Option α :=
  (table.find? (·.1.contains name)).map (·.2)

/-- Whether a character has the listed property with a name. -/
def isListed (name : String) (c : Char) : Bool :=
  (lookupName listedFlags name).any (insideStretches · c.toNat)

/-- Whether a code point is set aside: it is and will be no character. -/
def isNoncharacter (c : Char) : Bool :=
  (0xFDD0 ≤ c.toNat && c.toNat ≤ 0xFDEF) || 0xFFFE ≤ c.toNat % 0x10000

/-- Whether a character is a mark that goes with the character before it. -/
def isGraphemeExtend (c : Char) : Bool :=
  hasCategory ["Mn", "Me"] c || isListed "othergraphemeextend" c

/-- The categories of letters and of numbers that are letters. -/
def letterCategories : List String := ["Lu", "Ll", "Lt", "Lm", "Lo", "Nl"]

/-- Whether an identifier may start with a character. -/
def isIdStart (c : Char) : Bool :=
  (hasCategory letterCategories c || isListed "otheridstart" c) && !isListed "patternsyntax" c

/-- Whether an identifier may go on with a character. -/
def isIdContinue (c : Char) : Bool :=
  isIdStart c || hasCategory ["Mn", "Mc", "Nd", "Pc"] c || isListed "otheridcontinue" c

/-- Characters that may be in an identifier while their compatibility forms may not. -/
def unstableRuns : List Run := [
  ⟨0x37A, 0x37A, 1⟩, ⟨0x309B, 0x309C, 1⟩, ⟨0xFC5E, 0xFC63, 1⟩, ⟨0xFDFA, 0xFDFB, 1⟩,
  ⟨0xFE70, 0xFE7E, 2⟩]

/-- Characters that may start an identifier while their compatibility forms may not. -/
def unstableStartRuns : List Run := [
  ⟨0xE33, 0xE33, 1⟩, ⟨0xEB3, 0xEB3, 1⟩, ⟨0xFF9E, 0xFF9F, 1⟩]

/-- Whether a character has another lower-case form than itself. -/
def changesLowered (c : Char) : Bool := toLower c != [c]

/-- Whether a character has another upper-case form than itself. -/
def changesUppered (c : Char) : Bool := toUpper c != [c]

/-- The Georgian letters, which have capitals but no title case. -/
def georgianRuns : List Run := [⟨0x10D0, 0x10FA, 1⟩, ⟨0x10FD, 0x10FF, 1⟩]

/-- The capitals of two letters, of which the second is small in title case. -/
def digraphRuns : List Run := [⟨0x1C4, 0x1CA, 3⟩, ⟨0x1F1, 0x1F1, 1⟩]

/-- Whether a character has another title-case form than itself. -/
def changesTitled (c : Char) : Bool :=
  (changesUppered c && category c != "Lt" && !inRuns georgianRuns c) || inRuns digraphRuns c

/-- Characters that fold to more than one character. -/
def longFoldRuns : List Run := [
  ⟨0xDF, 0xDF, 1⟩, ⟨0x130, 0x130, 1⟩, ⟨0x149, 0x149, 1⟩, ⟨0x587, 0x587, 1⟩, ⟨0x1E9A, 0x1E9A, 1⟩,
  ⟨0x1F80, 0x1F87, 1⟩, ⟨0x1F90, 0x1F97, 1⟩, ⟨0x1FA0, 0x1FA7, 1⟩, ⟨0x1FB2, 0x1FB4, 1⟩,
  ⟨0x1FB7, 0x1FB7, 1⟩, ⟨0x1FC2, 0x1FC4, 1⟩, ⟨0x1FC7, 0x1FC7, 1⟩, ⟨0x1FF2, 0x1FF4, 1⟩,
  ⟨0x1FF7, 0x1FF7, 1⟩, ⟨0xFB00, 0xFB04, 1⟩, ⟨0xFB06, 0xFB06, 1⟩, ⟨0xFB13, 0xFB17, 1⟩]

/-- Characters that fold like others, but are equal to what they fold to once they are taken
apart. -/
def equalFoldRuns : List Run := [⟨0x1FBE, 0x1FBE, 1⟩, ⟨0x1FD3, 0x1FE3, 16⟩]

/-- Whether a character changes when its case is folded. -/
def changesFolded (c : Char) : Bool :=
  (foldKey c != c.toNat && !inRuns equalFoldRuns c) || inRuns longFoldRuns c

/-- The flags that follow from other tables: the loose names of each, and who has it. -/
def computedFlags : List (List String × (Char → Bool)) := [
  (["wspace", "space", "whitespace"], isBlank),
  (["alpha", "alphabetic"], isAlphabetic),
  (["upper", "uppercase"], isUpper),
  (["lower", "lowercase"], isLower),
  (["cased"], isCased),
  (["ci", "caseignorable"], isCaseIgnorable),
  (["ahex", "asciihexdigit"],
    inRuns [⟨0x30, 0x39, 1⟩, ⟨0x41, 0x46, 1⟩, ⟨0x61, 0x66, 1⟩]),
  (["hex", "hexdigit"],
    inRuns [⟨0x30, 0x39, 1⟩, ⟨0x41, 0x46, 1⟩, ⟨0x61, 0x66, 1⟩, ⟨0xFF10, 0xFF19, 1⟩,
      ⟨0xFF21, 0xFF26, 1⟩, ⟨0xFF41, 0xFF46, 1⟩]),
  (["cwl", "changeswhenlowercased"], changesLowered),
  (["cwu", "changeswhenuppercased"], changesUppered),
  (["cwt", "changeswhentitlecased"], changesTitled),
  (["cwcf", "changeswhencasefolded"], changesFolded),
  (["cwcm", "changeswhencasemapped"],
    fun c => changesLowered c || changesUppered c || changesTitled c),
  (["grext", "graphemeextend"], isGraphemeExtend),
  (["grbase", "graphemebase"], fun c =>
    !hasCategory ["Cc", "Cf", "Co", "Cn", "Zl", "Zp"] c && !isGraphemeExtend c),
  (["ids", "idstart"], isIdStart),
  (["idc", "idcontinue"], isIdContinue),
  (["xids", "xidstart"], fun c =>
    isIdStart c && !inRuns unstableRuns c && !inRuns unstableStartRuns c),
  (["xidc", "xidcontinue"], fun c => isIdContinue c && !inRuns unstableRuns c),
  (["joinc", "joincontrol"], inRuns [⟨0x200C, 0x200D, 1⟩]),
  (["math"], fun c => hasCategory ["Sm"] c || isListed "othermath" c),
  (["nchar", "noncharactercodepoint"], isNoncharacter),
  (["oalpha", "otheralphabetic"], fun c => isAlphabetic c && !hasCategory letterCategories c),
  (["olower", "otherlowercase"], fun c => isLower c && category c != "Ll"),
  (["oupper", "otheruppercase"], fun c => isUpper c && category c != "Lu")]

/-- Whether a flag has a name. -/
def isFlagName (name : String) : Bool :=
  (lookupName computedFlags name).isSome || (lookupName listedFlags name).isSome

/-- Whether a character has the flag with a name. -/
def hasFlag (name : String) (c : Char) : Bool :=
  match lookupName computedFlags name with
  | some has => has c
  | none => isListed name c

end Orthography.Character
