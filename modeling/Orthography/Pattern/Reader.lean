import Orthography.Pattern.Flags

/-!
# Reading patterns

A pattern is read from left to right, one sign, operator or parenthesis at a time.  At hand are the
pieces of the innermost group, and on a stack what was being read around it.  Faults of meaning are
reported after faults of form: reading goes on behind them.
-/

namespace Orthography.Pattern

/-- Groups, classes, sequences and repetitions may nest this deep. -/
def nestingLimit : Nat := 250

/-- A piece of a pattern: what it matches, how deep it nests, and whether it can be repeated. -/
structure Piece where
  node : Node
  depth : Nat
  repeatable : Bool
  deriving DecidableEq, Repr

/-- The pieces of a group: those since the last bar, and the alternatives before it, each list with
the last first. -/
structure Level where
  pieces : List Piece
  branches : List Piece
  deriving DecidableEq, Repr

/-- The level of a group that has just been opened. -/
def Level.start : Level := ⟨[], []⟩

/-- The greatest depth of some pieces. -/
def greatestDepth (pieces : List Piece) : Nat := (pieces.map (·.depth)).foldl max 0

/-- The pieces since the last bar in sequence. -/
def Level.sequence (level : Level) : Piece :=
  let node := level.pieces.foldl (fun rest piece => .seq piece.node rest) .empty
  match level.pieces with
  | [] => ⟨node, 0, true⟩
  | [one] => ⟨node, one.depth, true⟩
  | pieces => ⟨node, 1 + greatestDepth pieces, true⟩

/-- All of a level: its alternatives, or its one sequence. -/
def Level.whole (level : Level) : Piece :=
  let last := level.sequence
  match level.branches with
  | [] => last
  | branches =>
    ⟨branches.foldl (fun rest branch => .alt branch.node rest) last.node,
      1 + max last.depth (greatestDepth branches), true⟩

/-- A level with one more piece. -/
def Level.push (level : Level) (piece : Piece) : Level :=
  { level with pieces := piece :: level.pieces }

/-- A level after a bar. -/
def Level.bar (level : Level) : Level := ⟨[], level.sequence :: level.branches⟩

/-- A group that is open: what was read around it, the flags to go back to, and where it opened. -/
structure Frame where
  outer : Level
  flags : Flags
  opened : Nat
  deriving DecidableEq, Repr

/-- The state of reading a pattern. -/
structure Reader where
  cursor : Cursor
  flags : Flags
  level : Level
  frames : List Frame
  /-- The names of groups, with their places. -/
  names : List (Text × Span)
  /-- The first fault of meaning. -/
  late : Option Fault
  deriving DecidableEq, Repr

/-- The reader at the start of a pattern. -/
def Reader.start (ignoreCase : Bool) (text : Text) : Reader :=
  ⟨⟨text, 0⟩, .initial ignoreCase, .start, [], [], none⟩

/-- The reader behind a piece of the given depth that means `node`, if it means anything. -/
def Reader.push (reader : Reader) (behind : Cursor) (depth : Nat) (node : Except Fault Node) :
    Reader :=
  match node with
  | .ok node =>
    { reader with cursor := behind, level := reader.level.push ⟨node, depth, true⟩ }
  | .error fault =>
    { reader with
      cursor := behind
      level := reader.level.push ⟨.never, depth, true⟩
      late := reader.late.or (some fault) }

/-- The reader behind a repetition of the last piece. -/
def Reader.repeatLast (reader : Reader) (behind : Cursor) (least : Nat) (most : Option Nat)
    (greedy : Bool) : Except Fault Reader :=
  let missing : Fault := .at .repetitionMissing reader.cursor.position reader.cursor.position
  match reader.level.pieces with
  | [] => .error missing
  | piece :: pieces =>
    if piece.repeatable then
      let node := .repeated piece.node least most (greedy != reader.flags.swapGreed)
      .ok { reader with
        cursor := behind
        level := { reader.level with pieces := ⟨node, 1 + piece.depth, true⟩ :: pieces } }
    else .error missing

/-- The reader behind one of the operators `?`, `*` and `+`. -/
def Reader.operator (reader : Reader) (least : Nat) (most : Option Nat) : Except Fault Reader :=
  let behind := reader.cursor.skip 1
  match behind.rest with
  | '?' :: _ => reader.repeatLast (behind.skip 1) least most false
  | _ => reader.repeatLast behind least most true

/-- The reader behind a counted repetition. -/
def Reader.counted (reader : Reader) : Except Fault Reader := do
  let missing : Fault := .at .repetitionMissing reader.cursor.position reader.cursor.position
  if !(reader.level.pieces.head?.any (·.repeatable)) then throw missing
  let (repetition, behind) ← scanCounted reader.flags.spaced reader.cursor
  reader.repeatLast behind repetition.least repetition.most repetition.greedy

/-- The reader inside a group that opens at the cursor. -/
def Reader.enter (reader : Reader) (behind : Cursor) (flags : Flags)
    (names : List (Text × Span)) : Reader :=
  { reader with
    cursor := behind
    flags := flags
    level := .start
    frames := ⟨reader.level, reader.flags, reader.cursor.position⟩ :: reader.frames
    names := names }

/-- The reader behind a left parenthesis and what belongs to it. -/
def Reader.openGroup (reader : Reader) : Except Fault Reader := do
  let (opening, behind) ← scanOpening reader.flags.spaced reader.cursor
  match opening with
  | .flags list =>
    return { reader with
      cursor := behind
      flags := reader.flags.apply list
      level := reader.level.push ⟨.empty, 0, false⟩ }
  | .group list => return reader.enter behind (reader.flags.apply list) reader.names
  | .capture none => return reader.enter behind reader.flags reader.names
  | .capture (some (name, span)) =>
    match reader.names.find? (·.1 == name) with
    | some (_, earlier) => throw ⟨.groupNameDuplicate, span, some earlier⟩
    | none => return reader.enter behind reader.flags ((name, span) :: reader.names)

/-- The reader behind a right parenthesis. -/
def Reader.closeGroup (reader : Reader) : Except Fault Reader :=
  match reader.frames with
  | [] => .error (.at .groupUnopened reader.cursor.position (reader.cursor.position + 1))
  | frame :: frames =>
    let inner := reader.level.whole
    .ok { reader with
      cursor := reader.cursor.skip 1
      flags := frame.flags
      level := frame.outer.push ⟨inner.node, 1 + inner.depth, true⟩
      frames := frames }

/-- The reader behind the part that starts with `c`, which the cursor is at. -/
def Reader.step (reader : Reader) (c : Char) : Except Fault Reader :=
  match c with
  | '(' => reader.openGroup
  | ')' => reader.closeGroup
  | '|' => .ok { reader with cursor := reader.cursor.skip 1, level := reader.level.bar }
  | '[' => do
    let (content, behind) ← scanClass reader.flags.spaced reader.cursor
    return reader.push behind content.depth ((content.item.set reader.flags).map .char)
  | '?' => reader.operator 0 (some 1)
  | '*' => reader.operator 0 none
  | '+' => reader.operator 1 none
  | '{' => reader.counted
  | c => do
    let (sign, behind) ← scanSign reader.flags.spaced c reader.cursor
    return reader.push behind 0
      (reader.flags.node ⟨reader.cursor.position, behind.position⟩ sign)

/-- What a reader has found at the end of the pattern. -/
def Reader.result (reader : Reader) : Except Fault Node :=
  match reader.frames with
  | frame :: _ => .error (.at .groupUnclosed frame.opened (frame.opened + 1))
  | [] =>
    let whole := reader.level.whole
    if nestingLimit < whole.depth then
      .error (.at (.nestingTooDeep nestingLimit) 0 reader.cursor.position)
    else match reader.late with
      | some fault => .error fault
      | none => .ok whole.node

/-- Reads the rest of a pattern in at most the given number of parts. -/
def Reader.finish : (parts : Nat) → Reader → Except Fault Node
  | 0, reader => reader.result
  | parts + 1, reader =>
    let settled := { reader with cursor := reader.cursor.settle reader.flags.spaced }
    match settled.cursor.rest with
    | [] => settled.result
    | c :: _ =>
      match settled.step c with
      | .error fault => .error fault
      | .ok next => Reader.finish parts next

/-- Reads a pattern.  Every part takes up characters, so there are no more parts than characters.  A
pattern is not refused for the size of its matcher, however often a count repeats its body. -/
def Node.read (ignoreCase : Bool) (text : Text) : Except Refusal Node :=
  match Reader.finish (text.length + 1) (.start ignoreCase text) with
  | .ok node => .ok node
  | .error fault => .error ⟨text, fault⟩

end Orthography.Pattern
