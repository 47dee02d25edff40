import Orthography.Character.Flag

/-!
# Breaks

How a character behaves where a text is broken into the characters that a reader sees, into words
and into sentences.  For each of the three, a character has a class of its own or none (`"XX"`).
-/

namespace Orthography.Character

/-! ### Characters as a reader sees them -/

/-- Characters that go with what is behind them, besides the listed ones. -/
def prependedRuns : List Run := [
  ⟨0xD4E, 0xD4E, 1⟩, ⟨0x111C2, 0x111C3, 1⟩, ⟨0x113D1, 0x113D1, 1⟩, ⟨0x1193F, 0x11941, 2⟩,
  ⟨0x11A84, 0x11A89, 1⟩, ⟨0x11D46, 0x11D46, 1⟩, ⟨0x11F02, 0x11F02, 1⟩]

/-- Spacing marks that do not go with what is before them. -/
def detachedMarkRuns : List Run := [
  ⟨0x102B, 0x102C, 1⟩, ⟨0x1038, 0x1038, 1⟩, ⟨0x1062, 0x1064, 1⟩, ⟨0x1067, 0x106D, 1⟩,
  ⟨0x1083, 0x1083, 1⟩, ⟨0x1087, 0x108C, 1⟩, ⟨0x108F, 0x108F, 1⟩, ⟨0x109A, 0x109C, 1⟩,
  ⟨0x1A61, 0x1A63, 2⟩, ⟨0x1A64, 0x1A64, 1⟩, ⟨0xAA7B, 0xAA7D, 2⟩, ⟨0x11720, 0x11721, 1⟩]

/-- Letters that go with what is before them like spacing marks. -/
def attachedLetterRuns : List Run := [⟨0xE33, 0xE33, 1⟩, ⟨0xEB3, 0xEB3, 1⟩]

/-- The runs of the parts of Hangul syllables: leading consonants, vowels and trailing consonants,
with the letters of other scripts that are joined like them. -/
def syllablePartRuns : List (String × List Run) := [
  ("L", [⟨0x1100, 0x115F, 1⟩, ⟨0xA960, 0xA97C, 1⟩]),
  ("V", [⟨0x1160, 0x11A7, 1⟩, ⟨0xD7B0, 0xD7C6, 1⟩, ⟨0x16D63, 0x16D63, 1⟩, ⟨0x16D67, 0x16D6A, 1⟩]),
  ("T", [⟨0x11A8, 0x11FF, 1⟩, ⟨0xD7CB, 0xD7FB, 1⟩]),
  ("LV", [⟨0xAC00, 0xD7A3, 28⟩]),
  ("LVT", [⟨0xAC00, 0xD7A3, 1⟩])]

/-- The class of a character where a text is broken into the characters that a reader sees. -/
def graphemeBreak (c : Char) : String :=
  if c == '\r' then "CR"
  else if c == '\n' then "LF"
  else if c.toNat == 0x200D then "ZWJ"
  else if isGraphemeExtend c || isListed "emojimodifier" c then "EX"
  else if isListed "regionalindicator" c then "RI"
  else if isListed "prependedconcatenationmark" c || inRuns prependedRuns c then "PP"
  else if hasCategory ["Zl", "Zp", "Cc", "Cf"] c then "CN"
  else if category c == "Cn" && isListed "defaultignorablecodepoint" c then "CN"
  else if category c == "Mc" && !inRuns detachedMarkRuns c then "SM"
  else if inRuns attachedLetterRuns c then "SM"
  else ((syllablePartRuns.find? fun (_, runs) => inRuns runs c).map (·.1)).getD "XX"

/-- The loose names of the classes of `graphemeBreak`. -/
def graphemeBreakNames : List (List String × String) := [
  (["cn", "control"], "CN"), (["cr"], "CR"), (["ex", "extend"], "EX"), (["l"], "L"),
  (["lf"], "LF"), (["lv"], "LV"), (["lvt"], "LVT"), (["pp", "prepend"], "PP"),
  (["ri", "regionalindicator"], "RI"), (["sm", "spacingmark"], "SM"), (["t"], "T"), (["v"], "V"),
  (["zwj"], "ZWJ")]

/-! ### Words -/

/-- Characters that count as digits, besides the decimal digits. -/
def numericRuns : List Run := [
  ⟨0x600, 0x605, 1⟩, ⟨0x66B, 0x66C, 1⟩, ⟨0x6DD, 0x6DD, 1⟩, ⟨0x890, 0x891, 1⟩, ⟨0x8E2, 0x8E2, 1⟩,
  ⟨0x19DA, 0x19DA, 1⟩, ⟨0x110BD, 0x110CD, 16⟩]

/-- Whether a character counts as a digit. -/
def isNumeric (c : Char) : Bool := category c == "Nd" || inRuns numericRuns c

/-- Whether a character goes with the word or sentence before it, whatever that is. -/
def isJoined (c : Char) : Bool := isGraphemeExtend c || category c == "Mc"

/-- Characters that count as letters, besides the alphabetic ones. -/
def wordLetterRuns : List Run := [
  ⟨0xB8, 0xB8, 1⟩, ⟨0x2C2, 0x2C5, 1⟩, ⟨0x2D2, 0x2D7, 1⟩, ⟨0x2DE, 0x2DF, 1⟩, ⟨0x2E5, 0x2EB, 1⟩,
  ⟨0x2ED, 0x2ED, 1⟩, ⟨0x2EF, 0x2FF, 1⟩, ⟨0x55A, 0x55C, 1⟩, ⟨0x55E, 0x55E, 1⟩, ⟨0x58A, 0x58A, 1⟩,
  ⟨0x5F3, 0x5F3, 1⟩, ⟨0x70F, 0x70F, 1⟩, ⟨0xA708, 0xA716, 1⟩, ⟨0xA720, 0xA721, 1⟩,
  ⟨0xA789, 0xA78A, 1⟩, ⟨0xAB5B, 0xAB5B, 1⟩]

/-- The scripts in which words have no blanks between them. -/
def unspacedScripts : List String :=
  ["Ahom", "Hira", "Khmr", "Lana", "Laoo", "Mymr", "Tale", "Talu", "Tavt", "Thai"]

/-- The signs that words are broken at, each class with its runs. -/
def wordSignRuns : List (String × List Run) := [
  ("NL", [⟨0xB, 0xC, 1⟩, ⟨0x85, 0x85, 1⟩, ⟨0x2028, 0x2029, 1⟩]),
  ("KA", [⟨0x3031, 0x3035, 1⟩, ⟨0x309B, 0x309C, 1⟩, ⟨0x30A0, 0x30A0, 1⟩, ⟨0x30FC, 0x30FC, 1⟩,
    ⟨0xFF70, 0xFF70, 1⟩]),
  ("SQ", [⟨0x27, 0x27, 1⟩]),
  ("DQ", [⟨0x22, 0x22, 1⟩]),
  ("MB", [⟨0x2E, 0x2E, 1⟩, ⟨0x2018, 0x2019, 1⟩, ⟨0x2024, 0x2024, 1⟩, ⟨0xFE52, 0xFE52, 1⟩,
    ⟨0xFF07, 0xFF0E, 7⟩]),
  ("ML", [⟨0x3A, 0x3A, 1⟩, ⟨0xB7, 0xB7, 1⟩, ⟨0x387, 0x387, 1⟩, ⟨0x55F, 0x55F, 1⟩,
    ⟨0x5F4, 0x5F4, 1⟩, ⟨0x2027, 0x2027, 1⟩, ⟨0xFE13, 0xFE13, 1⟩, ⟨0xFE55, 0xFE55, 1⟩,
    ⟨0xFF1A, 0xFF1A, 1⟩]),
  ("MN", [⟨0x2C, 0x2C, 1⟩, ⟨0x3B, 0x3B, 1⟩, ⟨0x37E, 0x37E, 1⟩, ⟨0x589, 0x589, 1⟩,
    ⟨0x60C, 0x60D, 1⟩, ⟨0x66C, 0x66C, 1⟩, ⟨0x7F8, 0x7F8, 1⟩, ⟨0x2044, 0x2044, 1⟩,
    ⟨0xFE50, 0xFE54, 4⟩, ⟨0xFF0C, 0xFF0C, 1⟩, ⟨0xFF1B, 0xFF1B, 1⟩]),
  ("WSEGSPACE", [⟨0x20, 0x20, 1⟩, ⟨0x1680, 0x1680, 1⟩, ⟨0x2000, 0x2006, 1⟩, ⟨0x2008, 0x200A, 1⟩,
    ⟨0x205F, 0x205F, 1⟩, ⟨0x3000, 0x3000, 1⟩])]

/-- The class of a character where a text is broken into words. -/
def wordBreak (c : Char) : String :=
  let sign? := (wordSignRuns.find? fun (_, runs) => inRuns runs c).map (·.1)
  if c == '\r' then "CR"
  else if c == '\n' then "LF"
  else if c.toNat == 0x200D then "ZWJ"
  else if isJoined c || isListed "emojimodifier" c then "EXTEND"
  else if isListed "regionalindicator" c then "RI"
  else match sign? with
    | some sign => sign
    | none =>
      if isNumeric c then "NU"
      else if category c == "Cf" && c.toNat != 0x200B && !inRuns wordLetterRuns c then "FO"
      else if script c == "Kana" then "KA"
      else if script c == "Hebr" && category c == "Lo" then "HL"
      else if inRuns wordLetterRuns c then "LE"
      else if isAlphabetic c && !isListed "ideographic" c && !unspacedScripts.contains (script c)
      then "LE"
      else if category c == "Pc" || c.toNat == 0x202F then "EX"
      else "XX"

/-- The loose names of the classes of `wordBreak`. -/
def wordBreakNames : List (List String × String) := [
  (["cr"], "CR"), (["dq", "doublequote"], "DQ"), (["ex", "extendnumlet"], "EX"),
  (["extend"], "EXTEND"), (["fo", "format"], "FO"), (["hl", "hebrewletter"], "HL"),
  (["ka", "katakana"], "KA"), (["le", "aletter"], "LE"), (["lf"], "LF"),
  (["mb", "midnumlet"], "MB"), (["ml", "midletter"], "ML"), (["mn", "midnum"], "MN"),
  (["nl", "newline"], "NL"), (["nu", "numeric"], "NU"), (["ri", "regionalindicator"], "RI"),
  (["sq", "singlequote"], "SQ"), (["wsegspace"], "WSEGSPACE"), (["zwj"], "ZWJ")]

/-! ### Sentences -/

/-- The small letters of Georgian and their capitals, which do not tell where a sentence starts. -/
def caselessRuns : List Run :=
  georgianRuns ++ [⟨0x1C90, 0x1CBA, 1⟩, ⟨0x1CBD, 0x1CBF, 1⟩]

/-- Full stops, which may also end an abbreviation. -/
def fullStopRuns : List Run := [
  ⟨0x2E, 0x2E, 1⟩, ⟨0x2024, 0x2024, 1⟩, ⟨0xFE52, 0xFE52, 1⟩, ⟨0xFF0E, 0xFF0E, 1⟩]

/-- Signs after which a sentence goes on. -/
def continuingRuns : List Run := [
  ⟨0x2C, 0x2D, 1⟩, ⟨0x3A, 0x3B, 1⟩, ⟨0x37E, 0x37E, 1⟩, ⟨0x55D, 0x55D, 1⟩, ⟨0x60C, 0x60D, 1⟩,
  ⟨0x7F8, 0x7F8, 1⟩, ⟨0x1802, 0x1808, 6⟩, ⟨0x2013, 0x2014, 1⟩, ⟨0x3001, 0x3001, 1⟩,
  ⟨0xFE10, 0xFE11, 1⟩, ⟨0xFE13, 0xFE14, 1⟩, ⟨0xFE31, 0xFE32, 1⟩, ⟨0xFE50, 0xFE51, 1⟩,
  ⟨0xFE54, 0xFE55, 1⟩, ⟨0xFE58, 0xFE58, 1⟩, ⟨0xFE63, 0xFE63, 1⟩, ⟨0xFF0C, 0xFF0D, 1⟩,
  ⟨0xFF1A, 0xFF1B, 1⟩, ⟨0xFF64, 0xFF64, 1⟩]

/-- Quotation marks that do not tell which side they close. -/
def quoteRuns : List Run := [
  ⟨0x22, 0x22, 1⟩, ⟨0x27, 0x27, 1⟩, ⟨0x275B, 0x2760, 1⟩, ⟨0x2E00, 0x2E01, 1⟩, ⟨0x2E06, 0x2E08, 1⟩,
  ⟨0x2E0B, 0x2E0B, 1⟩, ⟨0x1F676, 0x1F678, 1⟩]

/-- The class of a character where a text is broken into sentences. -/
def sentenceBreak (c : Char) : String :=
  if c == '\r' then "CR"
  else if c == '\n' then "LF"
  else if isJoined c || c.toNat == 0x200D then "EX"
  else if inRuns [⟨0x85, 0x85, 1⟩, ⟨0x2028, 0x2029, 1⟩] c then "SE"
  else if isNumeric c then "NU"
  else if category c == "Cf" then "FO"
  else if isBlank c then "SP"
  else if isLower c && !inRuns caselessRuns c then "LO"
  else if (isUpper c || category c == "Lt") && !inRuns caselessRuns c then "UP"
  else if isAlphabetic c || c.toNat == 0x5F3 then "LE"
  else if inRuns fullStopRuns c then "AT"
  else if isListed "sentenceterminal" c then "ST"
  else if inRuns continuingRuns c then "SC"
  else if hasCategory ["Ps", "Pe", "Pi", "Pf"] c || inRuns quoteRuns c then "CL"
  else "XX"

/-- The loose names of the classes of `sentenceBreak`. -/
def sentenceBreakNames : List (List String × String) := [
  (["at", "aterm"], "AT"), (["cl", "close"], "CL"), (["cr"], "CR"), (["ex", "extend"], "EX"),
  (["fo", "format"], "FO"), (["le", "oletter"], "LE"), (["lf"], "LF"), (["lo", "lower"], "LO"),
  (["nu", "numeric"], "NU"), (["sc", "scontinue"], "SC"), (["se", "sep"], "SE"),
  (["sp"], "SP"), (["st", "sterm"], "ST"), (["up", "upper"], "UP")]

end Orthography.Character
