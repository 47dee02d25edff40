import Orthography.Character.AgeData
import Orthography.Character.Break

/-!
# Character properties

The properties that a pattern can name: flags, general categories and their groups, scripts, ages
and the classes of breaks.  Names are compared loosely: case, blanks, hyphens, underscores and a
leading "is" do not count.
-/

namespace Orthography.Character

/-- What a text is broken into. -/
inductive BreakKind where
  | graphemes
  | words
  | sentences
  deriving DecidableEq, Repr

/-- The class of a character for a kind of breaks. -/
def BreakKind.classOf : BreakKind → Char → String
  | graphemes => graphemeBreak
  | words => wordBreak
  | sentences => sentenceBreak

/-- The loose names of the classes for a kind of breaks. -/
def BreakKind.names : BreakKind → List (List String × String)
  | graphemes => graphemeBreakNames
  | words => wordBreakNames
  | sentences => sentenceBreakNames

/-- A property of characters that has a name. -/
inductive Property where
  | any
  | assigned
  | ascii
  | flag (name : String)
  | category (tags : List String)
  | script (tag : String)
  | usedIn (tag : String)
  /-- The tag of the version that a character came with is one of these. -/
  | age (tags : List String)
  | breakClass (kind : BreakKind) (tag : String)
  deriving DecidableEq, Repr

/-- The property of the blanks. -/
def Property.blank : Property := .flag "whitespace"

/-- Whether a character has a property. -/
def Property.contains : Property → Char → Bool
  | any, _ => true
  | assigned, c => Character.category c != "Cn"
  | ascii, c => c.toNat < 128
  | flag name, c => hasFlag name c
  | category tags, c => hasCategory tags c
  | script tag, c => Character.script c == tag
  | usedIn tag, c => isUsedIn tag c
  | age tags, c =>
    (Character.category c != "Cn" || isNoncharacter c) &&
      (tagOf? ageStretches c.toNat).any tags.contains
  | breakClass kind tag, c => kind.classOf c == tag

/-! ### Names -/

/-- The loose names of the general categories and their groups. -/
def categoryNames : List (List String × List String) := [
  (["lu", "uppercaseletter"], ["Lu"]),
  (["ll", "lowercaseletter"], ["Ll"]),
  (["lt", "titlecaseletter"], ["Lt"]),
  (["lc", "casedletter"], ["Lu", "Ll", "Lt"]),
  (["lm", "modifierletter"], ["Lm"]),
  (["lo", "otherletter"], ["Lo"]),
  (["l", "letter"], ["Lu", "Ll", "Lt", "Lm", "Lo"]),
  (["mn", "nonspacingmark"], ["Mn"]),
  (["mc", "spacingmark"], ["Mc"]),
  (["me", "enclosingmark"], ["Me"]),
  (["m", "mark", "combiningmark"], ["Mn", "Mc", "Me"]),
  (["nd", "decimalnumber", "digit"], ["Nd"]),
  (["nl", "letternumber"], ["Nl"]),
  (["no", "othernumber"], ["No"]),
  (["n", "number"], ["Nd", "Nl", "No"]),
  (["pc", "connectorpunctuation"], ["Pc"]),
  (["pd", "dashpunctuation"], ["Pd"]),
  (["ps", "openpunctuation"], ["Ps"]),
  (["pe", "closepunctuation"], ["Pe"]),
  (["pi", "initialpunctuation"], ["Pi"]),
  (["pf", "finalpunctuation"], ["Pf"]),
  (["po", "otherpunctuation"], ["Po"]),
  (["p", "punctuation", "punct"], ["Pc", "Pd", "Ps", "Pe", "Pi", "Pf", "Po"]),
  (["sm", "mathsymbol"], ["Sm"]),
  (["sc", "currencysymbol"], ["Sc"]),
  (["sk", "modifiersymbol"], ["Sk"]),
  (["so", "othersymbol"], ["So"]),
  (["s", "symbol"], ["Sm", "Sc", "Sk", "So"]),
  (["zs", "spaceseparator"], ["Zs"]),
  (["zl", "lineseparator"], ["Zl"]),
  (["zp", "paragraphseparator"], ["Zp"]),
  (["z", "separator"], ["Zs", "Zl", "Zp"]),
  (["cc", "control", "cntrl"], ["Cc"]),
  (["cf", "format"], ["Cf"]),
  (["co", "privateuse"], ["Co"]),
  (["cn", "unassigned"], ["Cn"]),
  (["c", "other"], ["Cc", "Cf", "Co", "Cn"])]

/-- A name without what does not count when names are compared. -/
def looseName (name : List Char) : String :=
  let start := match name with
    | i :: s :: rest => if (i == 'i' || i == 'I') && (s == 's' || s == 'S') then rest else name
    | _ => name
  let kept := (start.filter fun c => c.toNat < 128 && c != ' ' && c != '_' && c != '-').map
    Char.toLower
  if kept == ['c'] && start.length < name.length then "isc" else String.ofList kept

/-- The properties that have a name only: nothing is known of who has them. -/
def unknownNames : List String := [
  "bc", "bidiclass", "bidimirroringglyph", "bidipairedbracket", "bidipairedbrackettype", "blk",
  "block", "bmg", "bpb", "bpt", "canonicalcombiningclass", "casefolding", "ccc", "ce", "cf",
  "changeswhennfkccasefolded", "cjkaccountingnumeric", "cjkcompatibilityvariant", "cjkiicore",
  "cjkirggsource", "cjkirghsource", "cjkirgjsource", "cjkirgkpsource", "cjkirgksource",
  "cjkirgmsource", "cjkirgssource", "cjkirgtsource", "cjkirguksource", "cjkirgusource",
  "cjkirgvsource", "cjkothernumeric", "cjkprimarynumeric", "cjkrsunicode", "compex",
  "compositionexclusion", "cwkcf", "decompositionmapping", "decompositiontype", "dm", "dt", "ea",
  "eastasianwidth", "equideo", "equivalentunifiedideograph", "expandsonnfc", "expandsonnfd",
  "expandsonnfkc", "expandsonnfkd", "fcnfkc", "fcnfkcclosure", "fullcompositionexclusion",
  "hangulsyllabletype", "hst", "incb", "indicconjunctbreak", "indicpositionalcategory",
  "indicsyllabiccategory", "inpc", "insc", "isc", "jamoshortname", "jg", "joininggroup",
  "joiningtype", "jsn", "jt", "kaccountingnumeric", "kcompatibilityvariant", "kiicore",
  "kirggsource", "kirghsource", "kirgjsource", "kirgkpsource", "kirgksource", "kirgmsource",
  "kirgssource", "kirgtsource", "kirguksource", "kirgusource", "kirgvsource", "kothernumeric",
  "kprimarynumeric", "krsunicode", "lb", "lc", "linebreak", "lowercasemapping", "na", "na1", "name",
  "namealias", "nfcqc", "nfcquickcheck", "nfdqc", "nfdquickcheck", "nfkccasefold", "nfkccf",
  "nfkcqc", "nfkcquickcheck", "nfkcscf", "nfkcsimplecasefold", "nfkdqc", "nfkdquickcheck", "nt",
  "numerictype", "numericvalue", "nv", "scf", "sfc", "simplecasefolding",
  "simplelowercasemapping", "simpletitlecasemapping", "simpleuppercasemapping", "slc", "stc", "suc",
  "tc", "titlecasemapping", "uc", "unicode1name", "unicoderadicalstroke", "uppercasemapping", "urs",
  "verticalorientation", "vo", "xonfc", "xonfd", "xonfkc", "xonfkd"]

/-- The names of categories and scripts that no character belongs to. -/
def emptyNames : List String :=
  ["cs", "surrogate", "hrkt", "katakanaorhiragana", "zzzz", "unknown"]

/-- The general category or group of categories with a loose name. -/
def categoryOfName? (name : String) : Option Property :=
  if name == "any" then some .any
  else if name == "assigned" then some .assigned
  else if name == "ascii" then some .ascii
  else (lookupName categoryNames name).map .category

/-- The script with a loose name. -/
def scriptOfName? (name : String) : Option Property := (lookupName scriptNames name).map .script

/-- The age with a loose name: it takes in the ages before it. -/
def ageOfName? (name : String) : Option Property :=
  (ageNames.findIdx? (·.1.contains name)).map fun index =>
    .age ((ageNames.take (index + 1)).map (·.2))

/-- The class of breaks with a loose name. -/
def BreakKind.ofName? (kind : BreakKind) (name : String) : Option Property :=
  (lookupName kind.names name).map (.breakClass kind)

/-- The properties that take a value: the loose names of each, and the reader of its values. -/
def valueReaders : List (List String × (String → Option Property)) := [
  (["gc", "generalcategory"], categoryOfName?),
  (["sc", "script"], scriptOfName?),
  (["scx", "scriptextensions"], fun name => (lookupName scriptNames name).map .usedIn),
  (["age"], ageOfName?),
  (["gcb", "graphemeclusterbreak"], BreakKind.graphemes.ofName?),
  (["wb", "wordbreak"], BreakKind.words.ofName?),
  (["sb", "sentencebreak"], BreakKind.sentences.ofName?)]

/-- What is wrong with the name of a property: the name itself, or the value behind it. -/
inductive NameFault where
  | name
  | value
  deriving DecidableEq, Repr

/-- The property with a name of one word: a flag, a general category or a script. -/
def Property.ofName (name : List Char) : Except NameFault Property :=
  let loose := looseName name
  let value? := (categoryOfName? loose).or (scriptOfName? loose)
  if isFlagName loose then .ok (.flag loose)
  else match value? with
    | some property => .ok property
    | none => .error (if emptyNames.contains loose then .value else .name)

/-- The property with a name and a value. -/
def Property.ofValue (name value : List Char) : Except NameFault Property :=
  let loose := looseName name
  match lookupName valueReaders loose with
  | some read =>
    match read (looseName value) with
    | some property => .ok property
    | none => .error .value
  | none => .error (if isFlagName loose || unknownNames.contains loose then .value else .name)

end Orthography.Character
