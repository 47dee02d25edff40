import Orthography.Pattern.Scan

/-!
# Written character classes

A class in brackets lists characters, ranges and other classes, perhaps nested, and combines them
with `&&`, `--` and `~~`, which bind alike and to the left.  Reading keeps the innermost open
bracket at hand and the brackets around it on a stack.
-/

namespace Orthography.Pattern

open Character

/-- How two classes are combined. -/
inductive SetOperation where
  | intersection
  | difference
  | symmetricDifference
  deriving DecidableEq, Repr

/-- The classes that are named between colons. -/
inductive NamedClass where
  | alnum
  | alpha
  | ascii
  | blank
  | cntrl
  | digit
  | graph
  | lower
  | print
  | punct
  | space
  | upper
  | word
  | xdigit
  deriving DecidableEq, Repr

/-- The named class with a name. -/
def NamedClass.ofName? (name : Text) : Option NamedClass :=
  match name.string with
  | "alnum" => some alnum
  | "alpha" => some alpha
  | "ascii" => some ascii
  | "blank" => some blank
  | "cntrl" => some cntrl
  | "digit" => some digit
  | "graph" => some graph
  | "lower" => some lower
  | "print" => some print
  | "punct" => some punct
  | "space" => some space
  | "upper" => some upper
  | "word" => some word
  | "xdigit" => some xdigit
  | _ => none

/-- A class as it is written. -/
inductive ClassItem where
  | nothing
  | literal (c : Char) (byte : Bool) (span : Span)
  | range (low high : Char) (lowByte highByte : Bool) (lowSpan highSpan : Span)
  | letterClass (sort : LetterClass) (negated : Bool) (span : Span)
  | property (name : PropertyName) (negated : Bool) (span : Span)
  | named (name : NamedClass) (negated : Bool) (span : Span)
  | both (first second : ClassItem)
  | combined (operation : SetOperation) (left right : ClassItem)
  | bracket (content : ClassItem) (negated : Bool) (span : Span)
  deriving DecidableEq, Repr

/-- A class and how deep it nests. -/
structure SizedClass where
  item : ClassItem
  depth : Nat

/-- What has been read inside one bracket: the items since the last operator, last first, and the
operator before them with its left side. -/
structure ClassLevel where
  items : List SizedClass
  pending : Option (SetOperation × SizedClass)

/-- The items of a level as one class. -/
def ClassLevel.union (level : ClassLevel) : SizedClass :=
  match level.items with
  | [] => ⟨.nothing, 0⟩
  | [one] => one
  | items =>
    ⟨items.foldl (fun rest one => .both one.item rest) .nothing,
      1 + (items.map (·.depth)).foldl max 0⟩

/-- The content of a level, with the operator before its last items carried out. -/
def ClassLevel.content (level : ClassLevel) : SizedClass :=
  let right := level.union
  match level.pending with
  | none => right
  | some (operation, left) =>
    ⟨.combined operation left.item right.item, 1 + max left.depth right.depth⟩

/-- A level with one more item. -/
def ClassLevel.push (level : ClassLevel) (item : SizedClass) : ClassLevel :=
  { level with items := item :: level.items }

/-- A bracket that is open: whether it is negated, where it was opened, and the level around it. -/
structure ClassFrame where
  negated : Bool
  opened : Span
  outer : ClassLevel

/-- A class that is being read: the innermost level, its frame, and the frames around it. -/
structure ClassReader where
  cursor : Cursor
  level : ClassLevel
  frame : ClassFrame
  frames : List ClassFrame

/-- Reads the minus signs at the start of a bracket, which stand for themselves. -/
def scanHyphens : List (Char × Nat) → List SizedClass → List SizedClass × List (Char × Nat)
  | ('-', position) :: rest, items =>
    scanHyphens rest (⟨.literal '-' false ⟨position, position + 1⟩, 0⟩ :: items)
  | chars, items => (items, chars)

/-- Reads the start of a bracket: a negation, then literal minus signs or one literal closing
bracket. -/
def openClass (spaced : Bool) (outer : ClassLevel) (cursor : Cursor) :
    Except Fault (Cursor × ClassLevel × ClassFrame) := do
  let start := cursor.position
  let final := cursor.endPosition
  let unclosed (stop : Nat) : Fault := .at .classUnclosed start stop
  let inside := (cursor.skip 1).counting spaced
  let negated := (inside.head?.map (·.1)) == some '^'
  let body := if negated then inside.drop 1 else inside
  if body.isEmpty then throw (unclosed final)
  let (hyphens, behind) := scanHyphens body []
  match hyphens, behind with
  | _ :: _, [] => throw (unclosed start)
  | [], (']', position) :: after =>
    match after with
    | [] => throw (unclosed final)
    | (_, next) :: _ =>
      let bracket : SizedClass := ⟨.literal ']' false ⟨position, position + 1⟩, 0⟩
      return (cursor.moveTo next, ⟨[bracket], none⟩, ⟨negated, ⟨start, next⟩, outer⟩)
  | items, chars =>
    let next := (chars.head?.map (·.2)).getD final
    return (cursor.moveTo next, ⟨items, none⟩, ⟨negated, ⟨start, next⟩, outer⟩)

/-- Reads a class named between colons, if there is one. -/
def scanNamed? (cursor : Cursor) : Option (SizedClass × Cursor) :=
  match cursor.rest with
  | '[' :: ':' :: rest =>
    let negated := rest.head? == some '^'
    let name := (if negated then rest.drop 1 else rest).takeWhile (· != ':')
    let width := 2 + (if negated then 1 else 0) + name.length
    match cursor.rest.drop width, NamedClass.ofName? name with
    | ':' :: ']' :: _, some sort =>
      let span : Span := ⟨cursor.position, cursor.position + width + 2⟩
      some (⟨.named sort negated span, 0⟩, cursor.skip (width + 2))
    | _, _ => none
  | _ => none

/-- A sign inside a bracket, where a point, a caret and a dollar sign stand for themselves. -/
def scanClassSign (spaced : Bool) (c : Char) (cursor : Cursor) : Except Fault (Sign × Cursor) :=
  if c == '\\' then scanEscape spaced cursor else .ok (.literal c false, cursor.skip 1)

/-- A sign that is a class of its own inside a bracket. -/
def classItemOf (sign : Sign) (span : Span) : Except Fault ClassItem :=
  match sign with
  | .literal c byte => .ok (.literal c byte span)
  | .letterClass sort negated => .ok (.letterClass sort negated span)
  | .property name negated => .ok (.property name negated span)
  | .dot | .place _ => .error ⟨.classEscapeInvalid, span, none⟩

/-- The next counting character behind the one that the cursor is at, as it decides whether a minus
sign makes a range. -/
def peekBehind (spaced : Bool) (cursor : Cursor) : Option Char :=
  let behind := (cursor.skip 1).rest
  if spaced then
    match behind.dropWhile isBlank with
    | '#' :: rest => (rest.dropWhile isBlank).head?
    | chars => chars.head?
  else behind.head?

/-- Reads one character, escape or range inside a bracket. -/
def scanRange (spaced : Bool) (unclosed : Fault) (c : Char) (cursor : Cursor) :
    Except Fault (SizedClass × Cursor) := do
  let (low, behind) ← scanClassSign spaced c cursor
  let lowSpan : Span := ⟨cursor.position, behind.position⟩
  let next := behind.settle spaced
  if next.rest.isEmpty then throw unclosed
  let after := peekBehind spaced next
  if next.rest.head? != some '-' || after == some ']' || after == some '-' then
    return (⟨← classItemOf low lowSpan, 0⟩, next)
  let upper := (next.skip 1).settle spaced
  match upper.rest with
  | [] => throw unclosed
  | d :: _ =>
    let (high, rest) ← scanClassSign spaced d upper
    let highSpan : Span := ⟨upper.position, rest.position⟩
    match low, high with
    | .literal l lowByte, .literal h highByte =>
      if h < l then throw (.at .classRangeInvalid cursor.position rest.position)
      return (⟨.range l h lowByte highByte lowSpan highSpan, 0⟩, rest)
    | .literal .., _ => throw ⟨.classRangeLiteral, highSpan, none⟩
    | _, _ => throw ⟨.classRangeLiteral, lowSpan, none⟩

/-- Starts the right side of an operator. -/
def ClassReader.operate (reader : ClassReader) (operation : SetOperation) : ClassReader :=
  { reader with
    cursor := reader.cursor.skip 2
    level := ⟨[], some (operation, reader.level.content)⟩ }

/-- Reads one part of a bracket: the class when it ends the outermost bracket, otherwise the reader
behind the part. -/
def ClassReader.step (reader : ClassReader) (spaced : Bool) :
    Except Fault ((SizedClass × Cursor) ⊕ ClassReader) := do
  let cursor := reader.cursor.settle spaced
  let unclosed : Fault := ⟨.classUnclosed, reader.frame.opened, none⟩
  let reader := { reader with cursor := cursor }
  match cursor.rest with
  | [] => throw unclosed
  | '[' :: _ =>
    match scanNamed? cursor with
    | some (item, behind) =>
      return .inr { reader with cursor := behind, level := reader.level.push item }
    | none =>
      let (behind, level, frame) ← openClass spaced reader.level cursor
      return .inr ⟨behind, level, frame, reader.frame :: reader.frames⟩
  | ']' :: _ =>
    let content := reader.level.content
    let behind := cursor.skip 1
    let span : Span := ⟨reader.frame.opened.start, behind.position⟩
    let bracket : SizedClass := ⟨.bracket content.item reader.frame.negated span, 1 + content.depth⟩
    match reader.frames with
    | [] => return .inl (bracket, behind)
    | frame :: frames =>
      return .inr ⟨behind, reader.frame.outer.push bracket, frame, frames⟩
  | '&' :: '&' :: _ => return .inr (reader.operate .intersection)
  | '-' :: '-' :: _ => return .inr (reader.operate .difference)
  | '~' :: '~' :: _ => return .inr (reader.operate .symmetricDifference)
  | c :: _ =>
    let (item, behind) ← scanRange spaced unclosed c cursor
    return .inr { reader with cursor := behind, level := reader.level.push item }

/-- Reads the rest of a class in at most the given number of parts. -/
def ClassReader.finish (spaced : Bool) : (parts : Nat) → ClassReader →
    Except Fault (SizedClass × Cursor)
  | 0, reader => .error ⟨.classUnclosed, reader.frame.opened, none⟩
  | parts + 1, reader =>
    match reader.step spaced with
    | .error fault => .error fault
    | .ok (.inl result) => .ok result
    | .ok (.inr next) => ClassReader.finish spaced parts next

/-- Reads a class in brackets, from its opening bracket on.  Every part takes up characters, so
there are no more parts than characters. -/
def scanClass (spaced : Bool) (cursor : Cursor) : Except Fault (SizedClass × Cursor) := do
  let (behind, level, frame) ← openClass spaced ⟨[], none⟩ cursor
  ClassReader.finish spaced (behind.rest.length + 1) ⟨behind, level, frame, []⟩

end Orthography.Pattern
