import Orthography.Character.Property
import Orthography.Pattern.Fault

/-!
# Signs of patterns

The smallest parts of a written pattern: single characters, escapes, counted repetitions, flags and
the openings of groups.  Each reader takes a cursor at the first character of its part and returns
the cursor behind it.  Under the flag `x` blanks and comments between characters do not count.
A text is escaped to mean itself by a backslash before every character that would mean something
else.
-/

namespace Orthography.Pattern

open Character

/-- What is left of a pattern, and how many characters came before it. -/
structure Cursor where
  rest : Text
  position : Nat
  deriving DecidableEq, Repr

namespace Cursor

/-- The cursor behind the next `n` characters, of which there are that many. -/
def skip (cursor : Cursor) (n : Nat) : Cursor := ⟨cursor.rest.drop n, cursor.position + n⟩

/-- The position at the end of the pattern. -/
def endPosition (cursor : Cursor) : Nat := cursor.position + cursor.rest.length

/-- The cursor at a later position. -/
def moveTo (cursor : Cursor) (position : Nat) : Cursor :=
  ⟨cursor.rest.drop (position - cursor.position), position⟩

end Cursor

/-- The characters that count, with their positions; a comment runs from a number sign to the end of
the line. -/
def countingFrom (inComment : Bool) (position : Nat) : Text → List (Char × Nat)
  | [] => []
  | c :: rest =>
    if inComment then countingFrom (c != '\n') (position + 1) rest
    else if isBlank c then countingFrom false (position + 1) rest
    else if c == '#' then countingFrom true (position + 1) rest
    else (c, position) :: countingFrom false (position + 1) rest

/-- The characters from the cursor on that count, with their positions. -/
def Cursor.counting (cursor : Cursor) (spaced : Bool) : List (Char × Nat) :=
  if spaced then countingFrom false cursor.position cursor.rest
  else cursor.rest.zipIdx cursor.position

/-- The cursor at the next character that counts. -/
def Cursor.settle (cursor : Cursor) (spaced : Bool) : Cursor :=
  if spaced then
    match (cursor.counting true).head? with
    | some (_, position) => cursor.moveTo position
    | none => cursor.moveTo cursor.endPosition
  else cursor

/-- Places that a pattern can ask for, as they are written. -/
inductive PlaceSign where
  | lineStart
  | lineEnd
  | textStart
  | textEnd
  | boundary
  | notBoundary
  | wordStart
  | wordEnd
  | wordStartHalf
  | wordEndHalf
  deriving DecidableEq, Repr

/-- The one-letter classes. -/
inductive LetterClass where
  | digit
  | blank
  | word
  deriving DecidableEq, Repr

/-- The name of a property, as it is written. -/
inductive PropertyName where
  | word (name : Text)
  | value (name value : Text)
  deriving DecidableEq, Repr

/-- One sign of a pattern. -/
inductive Sign where
  /-- A character; `byte` marks one that is written as a byte in two hexadecimal digits. -/
  | literal (c : Char) (byte : Bool)
  | dot
  | place (sign : PlaceSign)
  | letterClass (sort : LetterClass) (negated : Bool)
  | property (name : PropertyName) (negated : Bool)
  deriving DecidableEq, Repr

/-- The characters with a meaning of their own, which a backslash takes away. -/
def isMeta (c : Char) : Bool :=
  ['\\', '.', '+', '*', '?', '(', ')', '|', '[', ']', '{', '}', '^', '$', '#', '&', '-',
    '~'].contains c

/-- Whether a backslash may stand before a character that it does not change. -/
def isEscapable (c : Char) : Bool :=
  isMeta c || (c.toNat < 128 && !c.isAlphanum && c != '<' && c != '>')

/-- A character as a pattern that means it. -/
def escapeChar (c : Char) : Text := if isMeta c then ['\\', c] else [c]

/-- A text as a pattern that means it. -/
def escape (text : Text) : Text := text.flatMap escapeChar

@[simp] theorem escape_nil : escape [] = [] := rfl

@[simp] theorem escape_cons (c : Char) (text : Text) :
    escape (c :: text) = escapeChar c ++ escape text := rfl

@[simp] theorem escape_append (a b : Text) : escape (a ++ b) = escape a ++ escape b := by
  simp [escape]

/-- Whether a character is a hexadecimal digit. -/
def isHex (c : Char) : Bool :=
  c.isDigit || ('a' ≤ c && c ≤ 'f') || ('A' ≤ c && c ≤ 'F')

/-- The value of a hexadecimal digit. -/
def hexValue (c : Char) : Nat :=
  if c.isDigit then c.toNat - '0'.toNat else c.toLower.toNat - 'a'.toNat + 10

/-- The character that hexadecimal digits stand for, if there is one. -/
def hexChar? (digits : List Char) : Option Char :=
  let code := digits.foldl (fun value c => 16 * value + hexValue c) 0
  if code.isValidChar then some (Char.ofNat code) else none

/-- The first of the characters that is no hexadecimal digit, as a fault. -/
def hexFault? (digits : List (Char × Nat)) : Option Fault :=
  (digits.find? (!isHex ·.1)).map fun (_, position) =>
    .at .escapeHexInvalidDigit position (position + 1)

/-- Reads the digits after `\x`, `\u` or `\U`, of which there are `width`, or any number of them in
braces. -/
def scanHex (spaced : Bool) (width : Nat) (cursor : Cursor) : Except Fault (Sign × Cursor) :=
  match cursor.counting spaced with
  | [] => .error (.at .escapeUnfinished cursor.endPosition cursor.endPosition)
  | ('{', opened) :: inside =>
    let digits := inside.takeWhile (·.1 != '}')
    match hexFault? digits, inside.drop digits.length with
    | some fault, _ => .error fault
    | none, [] => .error (.at .escapeUnfinished opened cursor.endPosition)
    | none, (_, closed) :: _ =>
      if digits.isEmpty then .error (.at .escapeHexEmpty opened (closed + 1))
      else match hexChar? (digits.map (·.1)) with
        | some c => .ok (.literal c false, cursor.moveTo (closed + 1))
        | none => .error (.at .escapeHexInvalid (opened + 1) closed)
  | (first, begun) :: others =>
    let digits := ((first, begun) :: others).take width
    match hexFault? digits with
    | some fault => .error fault
    | none =>
      let stop := (digits.getLast?.map (·.2 + 1)).getD cursor.endPosition
      if digits.length < width then
        .error (.at .escapeUnfinished cursor.endPosition cursor.endPosition)
      else match hexChar? (digits.map (·.1)) with
        | some c => .ok (.literal c (width == 2), cursor.moveTo stop)
        | none => .error (.at .escapeHexInvalid begun stop)

/-- The part of a text before a separator and the part behind it. -/
def cutAt? (separator : Text) : Text → Option (Text × Text)
  | [] => if separator.isEmpty then some ([], []) else none
  | c :: rest =>
    match separator.isPrefixOf? (c :: rest) with
    | some behind => some ([], behind)
    | none => (cutAt? separator rest).map fun (before, behind) => (c :: before, behind)

/-- A property as it is named between braces, and whether its value is denied. -/
def propertyName (name : Text) : PropertyName × Bool :=
  match cutAt? ['!', '='] name, cutAt? [':'] name, cutAt? ['='] name with
  | some (key, value), _, _ => (.value key value, true)
  | none, some (key, value), _ => (.value key value, false)
  | none, none, some (key, value) => (.value key value, false)
  | none, none, none => (.word name, false)

/-- Reads the name after `\p` or `\P`. -/
def scanProperty (spaced negated : Bool) (cursor : Cursor) : Except Fault (Sign × Cursor) :=
  match cursor.counting spaced with
  | [] => .error (.at .escapeUnfinished cursor.endPosition cursor.endPosition)
  | ('{', _) :: inside =>
    let name := inside.takeWhile (·.1 != '}')
    match inside.drop name.length with
    | [] => .error (.at .escapeUnfinished cursor.endPosition cursor.endPosition)
    | (_, closed) :: _ =>
      let (property, denied) := propertyName (name.map (·.1))
      .ok (.property property (negated != denied), cursor.moveTo (closed + 1))
  | ('\\', position) :: _ => .error (.at .propertyInvalid position (position + 1))
  | (c, position) :: _ => .ok (.property (.word [c]) negated, cursor.moveTo (position + 1))

/-- The kinds of word boundary that can be named in braces. -/
def boundaryNames : List (List Char × PlaceSign) := [
  ("start".toList, .wordStart), ("end".toList, .wordEnd),
  ("start-half".toList, .wordStartHalf), ("end-half".toList, .wordEndHalf)]

/-- Reads what may follow `\b`: the name of a kind of word boundary in braces.  Braces that do not
start like a name are left to be read as a repetition. -/
def scanBoundary (spaced : Bool) (start : Nat) (cursor : Cursor) :
    Except Fault (Sign × Cursor) :=
  if cursor.rest.head? != some '{' then .ok (.place .boundary, cursor)
  else match (cursor.skip 1).counting spaced with
    | [] => .error (.at .boundaryUnfinished start cursor.endPosition)
    | (first, begun) :: others =>
      let isName (c : Char) : Bool := c.isAlpha || c == '-'
      if !isName first then .ok (.place .boundary, cursor)
      else
        let name := ((first, begun) :: others).takeWhile (isName ·.1)
        match ((first, begun) :: others).drop name.length with
        | ('}', closed) :: _ =>
          match (boundaryNames.find? (·.1 == name.map (·.1))).map (·.2) with
          | some sign => .ok (.place sign, cursor.moveTo (closed + 1))
          | none => .error (.at .boundaryUnrecognized begun closed)
        | (_, position) :: _ => .error (.at .boundaryUnclosed cursor.position position)
        | [] => .error (.at .boundaryUnclosed cursor.position cursor.endPosition)

/-- Reads an escape, from its backslash on. -/
def scanEscape (spaced : Bool) (cursor : Cursor) : Except Fault (Sign × Cursor) :=
  let start := cursor.position
  match cursor.rest.drop 1 with
  | [] => .error (.at .escapeUnfinished start cursor.endPosition)
  | c :: _ =>
    let behind := cursor.skip 2
    let literal (c : Char) : Except Fault (Sign × Cursor) := .ok (.literal c false, behind)
    if c.isDigit then .error (.at .backreference start (start + 2))
    else if isEscapable c then literal c
    else match c with
      | 'x' => scanHex spaced 2 behind
      | 'u' => scanHex spaced 4 behind
      | 'U' => scanHex spaced 8 behind
      | 'p' => scanProperty spaced false behind
      | 'P' => scanProperty spaced true behind
      | 'd' => .ok (.letterClass .digit false, behind)
      | 'D' => .ok (.letterClass .digit true, behind)
      | 's' => .ok (.letterClass .blank false, behind)
      | 'S' => .ok (.letterClass .blank true, behind)
      | 'w' => .ok (.letterClass .word false, behind)
      | 'W' => .ok (.letterClass .word true, behind)
      | 'a' => literal '\x07'
      | 'f' => literal '\x0C'
      | 't' => literal '\t'
      | 'n' => literal '\n'
      | 'r' => literal '\r'
      | 'v' => literal '\x0B'
      | 'A' => .ok (.place .textStart, behind)
      | 'z' => .ok (.place .textEnd, behind)
      | 'b' => scanBoundary spaced start behind
      | 'B' => .ok (.place .notBoundary, behind)
      | '<' => .ok (.place .wordStart, behind)
      | '>' => .ok (.place .wordEnd, behind)
      | _ => .error (.at .escapeUnrecognized start (start + 2))

/-- Reads the sign of one character or the escape `c :: rest` that the cursor is at. -/
def scanSign (spaced : Bool) (c : Char) (cursor : Cursor) : Except Fault (Sign × Cursor) :=
  match c with
  | '\\' => scanEscape spaced cursor
  | '.' => .ok (.dot, cursor.skip 1)
  | '^' => .ok (.place .lineStart, cursor.skip 1)
  | '$' => .ok (.place .lineEnd, cursor.skip 1)
  | c => .ok (.literal c false, cursor.skip 1)

/-- How often something is repeated. -/
structure Repetition where
  least : Nat
  most : Option Nat
  greedy : Bool
  deriving DecidableEq, Repr

/-- The characters that count, from the first that is no blank. -/
def dropBlanks (chars : List (Char × Nat)) : List (Char × Nat) := chars.dropWhile (isBlank ·.1)

/-- A count of a repetition, which has to fit in 32 bits, and what follows it. -/
def scanDecimal (final : Nat) (chars : List (Char × Nat)) :
    Except Fault Nat × List (Char × Nat) :=
  let begun := dropBlanks chars
  let digits := begun.takeWhile (·.1.isDigit)
  let behind := begun.drop digits.length
  let position (chars : List (Char × Nat)) : Nat := (chars.head?.map (·.2)).getD final
  let value := (digits.map (·.1)).foldl (fun value c => 10 * value + (c.toNat - '0'.toNat)) 0
  let result :=
    if digits.isEmpty then
      .error (.at .repetitionDecimalEmpty (position begun) (position begun))
    else if value < 0x100000000 then .ok value
    else .error (.at .decimalInvalid (position begun) (position behind))
  (result, dropBlanks behind)

/-- Reads the question mark that makes a repetition reluctant, if there is one. -/
def scanReluctance (closed : Nat) : List (Char × Nat) → Bool × Nat
  | ('?', position) :: _ => (false, position + 1)
  | _ => (true, closed + 1)

/-- Reads a counted repetition, from its opening brace on. -/
def scanCounted (spaced : Bool) (cursor : Cursor) : Except Fault (Repetition × Cursor) := do
  let start := cursor.position
  let final := cursor.endPosition
  let unclosed (stop : Nat) : Fault := .at .repetitionUnclosed start stop
  let inside := (cursor.skip 1).counting spaced
  if inside.isEmpty then throw (unclosed final)
  let (least, behind) := scanDecimal final inside
  if behind.isEmpty then throw (unclosed final)
  let close (least : Nat) (most : Option Nat) (chars : List (Char × Nat)) :
      Except Fault (Repetition × Cursor) :=
    match chars with
    | ('}', closed) :: after =>
      let (greedy, stop) := scanReluctance closed after
      if (most.getD least) < least then .error (.at .repetitionRangeInvalid start stop)
      else .ok (⟨least, most, greedy⟩, cursor.moveTo stop)
    | (_, position) :: _ => .error (unclosed position)
    | [] => .error (unclosed final)
  match behind with
  | (',', _) :: after =>
    match after with
    | [] => throw (unclosed final)
    | ('}', closed) :: rest => close (← least) none (('}', closed) :: rest)
    | _ =>
      let least ← least
      let (most, rest) := scanDecimal final after
      close least (some (← most)) rest
  | _ =>
    let least ← least
    close least (some least) behind

/-- The flags of a pattern that can be set inside it. -/
inductive FlagSign where
  | ignoreCase
  | multiLine
  | dotAll
  | swapGreed
  | unicode
  | carriageReturn
  | spaced
  deriving DecidableEq, Repr

/-- The flag of a letter. -/
def FlagSign.ofChar? : Char → Option FlagSign
  | 'i' => some ignoreCase
  | 'm' => some multiLine
  | 's' => some dotAll
  | 'U' => some swapGreed
  | 'u' => some unicode
  | 'R' => some carriageReturn
  | 'x' => some spaced
  | _ => none

/-- The flags that are set and cleared, with the positions of their letters and of the minus
sign. -/
structure FlagList where
  flags : List (FlagSign × Bool × Nat)
  minus : Option Nat
  deriving DecidableEq, Repr

/-- Reads flags up to a colon or a closing parenthesis, and returns what they end in. -/
def scanFlags (position : Nat) (read : FlagList) (afterMinus : Bool) :
    Text → Except Fault (FlagList × Char × Cursor)
  | [] => .error (.at .flagUnfinished position position)
  | c :: rest =>
    if c == ':' || c == ')' then
      match afterMinus, read.minus with
      | true, some minus => .error (.at .flagDanglingNegation minus (minus + 1))
      | _, _ => .ok (read, c, ⟨rest, position + 1⟩)
    else if c == '-' then
      match read.minus with
      | some minus =>
        .error ⟨.flagRepeatedNegation, ⟨position, position + 1⟩, some ⟨minus, minus + 1⟩⟩
      | none => scanFlags (position + 1) { read with minus := some position } true rest
    else match FlagSign.ofChar? c with
      | none => .error (.at .flagUnrecognized position (position + 1))
      | some flag =>
        match read.flags.find? (·.1 == flag) with
        | some (_, _, earlier) =>
          .error ⟨.flagDuplicate, ⟨position, position + 1⟩, some ⟨earlier, earlier + 1⟩⟩
        | none =>
          let entry := (flag, read.minus.isNone, position)
          scanFlags (position + 1) { read with flags := read.flags ++ [entry] } false rest

/-- What a left parenthesis opens. -/
inductive Opening where
  /-- A group whose content can be referred to, perhaps by name. -/
  | capture (name : Option (Text × Span))
  | group (flags : FlagList)
  /-- No group, but flags for the rest of the group around it. -/
  | flags (flags : FlagList)
  deriving DecidableEq, Repr

/-- Whether a character may stand in the name of a group. -/
def isNamePart (first : Bool) (c : Char) : Bool :=
  if first then c == '_' || isAlphabetic c
  else c == '_' || c == '.' || c == '[' || c == ']' || isAlphanumeric c

/-- Reads the name of a group up to the closing angle bracket. -/
def scanName (cursor : Cursor) : Except Fault (Text × Span × Cursor) :=
  let start := cursor.position
  let name := cursor.rest.takeWhile (· != '>')
  let stop := start + name.length
  match name.zipIdx.find? fun (c, index) => !isNamePart (index == 0) c with
  | some (_, index) => .error (.at .groupNameInvalid (start + index) (start + index + 1))
  | none =>
    if name.length == cursor.rest.length then .error (.at .groupNameUnfinished stop stop)
    else if name.isEmpty then .error (.at .groupNameEmpty start start)
    else .ok (name, ⟨start, stop⟩, cursor.skip (name.length + 1))

/-- The beginnings of look-around groups. -/
def lookAroundSigns : List Text :=
  [['?', '='], ['?', '!'], ['?', '<', '='], ['?', '<', '!']]

/-- Reads the opening of a group, from its left parenthesis on. -/
def scanOpening (spaced : Bool) (cursor : Cursor) : Except Fault (Opening × Cursor) := do
  let start := cursor.position
  let inside := (cursor.skip 1).settle spaced
  match lookAroundSigns.find? (·.isPrefixOf inside.rest) with
  | some sign => throw (.at .lookAround start (inside.position + sign.length))
  | none => pure ()
  let named := [['?', 'P', '<'], ['?', '<']].find? (·.isPrefixOf inside.rest)
  match named, inside.rest with
  | some sign, _ =>
    let (name, span, behind) ← scanName (inside.skip sign.length)
    return (.capture (some (name, span)), behind)
  | none, '?' :: rest =>
    if rest.isEmpty then throw (.at .groupUnclosed start (start + 1))
    let (flags, final, behind) ← scanFlags (inside.position + 1) ⟨[], none⟩ false rest
    if final == ':' then return (.group flags, behind)
    if flags.flags.isEmpty && flags.minus.isNone then
      throw (.at .repetitionMissing inside.position inside.position)
    return (.flags flags, behind)
  | none, _ => return (.capture none, inside)

end Orthography.Pattern
