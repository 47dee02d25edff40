import Orthography.Character.Run

/-!
# Text

Words, lines and whole files are lists of characters.  This module cuts them, into lines and into
the columns of a line, and reads the counts that are written in them: decimal digits with an
optional plus sign, below a fixed limit.
-/

namespace Orthography

open Character (isBlank)

/-- A word, a line or a file: the list of its characters. -/
abbrev Text := List Char

/-- Counts are below this limit, which takes 65 bits. -/
def countLimit : Nat := 0x10000000000000000

namespace Text

/-- A text as a string, for messages. -/
def string (text : Text) : String := String.ofList text

/-- The pieces of a list between the members that `separates` holds for. -/
abbrev split {α : Type} (separates : α → Bool) (items : List α) : List (List α) :=
  items.splitOnP separates

/-- What follows `start` in a text that starts with it. -/
abbrev dropStart? (start text : Text) : Option Text := start.isPrefixOf? text

/-- The columns of a line: the longest stretches without blanks. -/
def columns (text : Text) : List Text :=
  (split isBlank text).filter (!·.isEmpty)

/-- A list without its last member, if that is `last`. -/
def dropLast {α : Type} [DecidableEq α] (last : α) (items : List α) : List α :=
  if items.getLast? = some last then items.dropLast else items

/-- The lines of a list in which `feed` ends a line, together with one `back` before it; a last line
without a `feed` counts if it is not empty, and is taken as it is. -/
def linesBy {α : Type} [DecidableEq α] (feed back : α) (items : List α) : List (List α) :=
  let pieces := items.splitOn feed
  let last := pieces.getLast?.getD []
  pieces.dropLast.map (dropLast back) ++ if last.isEmpty then [] else [last]

/-- The lines of a text, which end in a line feed or in a carriage return and a line feed. -/
def lines (text : Text) : List Text := linesBy '\n' '\r' text

/-- A text without the blanks at its start. -/
def trimStart (text : Text) : Text := text.dropWhile isBlank

/-- A text without the blanks at its end. -/
def trimEnd (text : Text) : Text := (text.reverse.dropWhile isBlank).reverse

/-- A text without the blanks at both ends. -/
def trim (text : Text) : Text := trimEnd (trimStart text)

/-- Whether a text is empty or all blank. -/
def isBlankLine (text : Text) : Bool := text.all isBlank

/-- Whether `part` occurs in a text. -/
def contains (part : Text) : Text → Bool
  | [] => part.isEmpty
  | c :: text => part.isPrefixOf (c :: text) || contains part text

/-- The byte order mark, which a file may start with and which is no part of its text. -/
def byteOrderMark : Char := Char.ofNat 0xFEFF

/-- A file without the byte order mark at its start. -/
def dropMark (text : Text) : Text := (dropStart? [byteOrderMark] text).getD text

/-- The value of a digit. -/
def digitValue (c : Char) : Nat := c.toNat - '0'.toNat

/-- The number that a list of digits stands for. -/
def digitsValue (digits : List Char) : Nat :=
  digits.foldl (fun value c => 10 * value + digitValue c) 0

/-- The number that a non-empty list of digits stands for. -/
def natural? (text : Text) : Option Nat :=
  if !text.isEmpty && text.all Char.isDigit then some (digitsValue text) else none

/-- Reads a count. -/
def count? (text : Text) : Option Nat :=
  let digits := match text with
    | '+' :: rest => rest
    | _ => text
  (natural? digits).filter (· < countLimit)

end Text

end Orthography
