import Orthography.Affix.Compound
import Orthography.Affix.Replacement
import Orthography.Affix.Rule
import Orthography.Journal

/-!
# Statements of an affix file

An affix file is a sequence of statements.  Rules and lists of compound rules are blocks: a header
gives the number of lines that follow.  Lines that cannot be read are noted and passed over; a block
that runs past the end of the file is the one thing that makes the file unreadable.
-/

namespace Orthography

open Character (isBlank)
open Pattern (Refusal)

/-- The block that runs past the end of a file. -/
structure TruncatedBlock where
  directive : Text
  line : Nat
  expected : Nat
  available : Nat
  deriving DecidableEq, Repr

/-- The wording of the error. -/
def TruncatedBlock.message (block : TruncatedBlock) : String :=
  let directive := block.directive.string
  s!"{directive} block at line {block.line} declares {block.expected} entries but only " ++
    s!"{block.available} lines follow"

/-- One statement. -/
inductive Statement where
  | rule (code : Code) (rule : AffixRule)
  | compounds (rules : List CompoundRule)
  | replacement (replacement : Replacement)
  | setting (name value : Text)
  deriving DecidableEq

/-- Why a line of a rule is passed over. -/
inductive EntryFault where
  | tooFewColumns (expected found : Nat)
  | badCondition (source : Text) (refusal : Refusal)
  deriving DecidableEq, Repr

/-- The wording of a fault. -/
def EntryFault.message : EntryFault → String
  | tooFewColumns expected found => s!"expected at least {expected} columns, found {found}"
  | badCondition source refusal => s!"invalid condition `{source.string}`: {refusal.message}"

namespace Statement

/-- A line up to its comment, which starts at a number sign at the start of the line or behind a
blank; `afterBlank` says whether it could start at once. -/
def beforeComment (afterBlank : Bool) : Text → Text
  | [] => []
  | c :: rest => if afterBlank && c == '#' then [] else c :: beforeComment (isBlank c) rest

/-- The columns of a line without its comment. -/
def columns (line : Text) : List Text := Text.columns (beforeComment true line)

/-- The number of columns that come before the usual ones: two where the third column repeats the
marker of the line. -/
def shift (columns : List Text) : Nat :=
  match columns[2]? with
  | some word => if (AffixKind.ofMarker? word).isSome then 2 else 0
  | none => 0

/-- An addition and the codes behind its first slash. -/
def splitAddition : Text → Text × Text
  | [] => ([], [])
  | c :: rest =>
    if c = '/' then ([], rest)
    else
      let (add, codes) := splitAddition rest
      (c :: add, codes)

/-- The column that stands for nothing where text is taken away or added. -/
def nothing : Text := ['0']

/-- The column that stands for a condition that always holds. -/
def always : Text := ['.']

/-- Reads the condition of an entry. -/
def readCondition (kind : AffixKind) (column : Text) : Except EntryFault (Option Condition) :=
  if column = always then .ok none
  else match Condition.ofSource column kind.anchor with
    | .ok condition => .ok (some condition)
    | .error refusal => .error (.badCondition column refusal)

/-- Reads what an entry takes away.  At the end of a stem this is a pattern, or the text itself if
that is no pattern. -/
def readRemoval (kind : AffixKind) (column : Text) : Except EntryFault (Option Removal) :=
  if column = nothing then .ok none
  else match kind with
    | .leading => .ok (some (.leading column))
    | .trailing =>
      match Condition.ofSource column .stop with
      | .ok condition => .ok (some (.trailing condition))
      | .error _ =>
        match Condition.literal column .stop with
        | .ok condition => .ok (some (.trailing condition))
        | .error refusal => .error (.badCondition column refusal)

/-- Reads one line of a rule. -/
def readEntry (kind : AffixKind) (line : Text) : Except EntryFault AffixEntry :=
  let columns := columns line
  let shift := shift columns
  match columns.drop (2 + shift) with
  | remove :: addition :: rest => do
    let (add, codes) := splitAddition addition
    let condition ← readCondition kind (rest.headD always)
    let remove ← readRemoval kind remove
    return {
      add := if add = nothing then [] else add
      remove := remove
      condition := condition
      continuation := Code.split codes }
  | _ => .error (.tooFewColumns (4 + shift) columns.length)

/-- Reads line `number`, a line of a rule; a line that cannot be read is noted. -/
def readNumberedEntry (kind : AffixKind) : Text × Nat → Logged (Option AffixEntry)
  | (line, number) =>
    match readEntry kind line with
    | .ok entry => pure (some entry)
    | .error fault => do
      Logged.note .warn
        s!"line {number}: {fault.message}; {kind.marker.string} entry skipped"
      return none

/-- Reads the lines of a rule from line `number` on, passing over those that cannot be read. -/
def readEntries (kind : AffixKind) (number : Nat) (lines : List Text) :
    Logged (List AffixEntry) :=
  .gather ((lines.zipIdx number).map (readNumberedEntry kind))

/-- Reads line `number`, a line of a list of compound rules; a line without a rule is noted. -/
def readNumberedCompound : Text × Nat → Logged (Option CompoundRule)
  | (line, number) =>
    match (columns line)[1]? with
    | some pattern => pure (some ⟨pattern⟩)
    | none => do
      Logged.note .warn s!"line {number}: compound rule without a pattern, skipped"
      return none

/-- Reads the lines of a list of compound rules from line `number` on. -/
def readCompounds (number : Nat) (lines : List Text) : Logged (List CompoundRule) :=
  .gather ((lines.zipIdx number).map readNumberedCompound)

/-- What a line is, together with the lines after it. -/
inductive Header where
  /-- A line that says nothing. -/
  | blank
  /-- A header that cannot be read. -/
  | malformed (directive : Text)
  | rule (kind : AffixKind) (code : Code) (combinable : Bool) (count : Nat)
  | compounds (count : Nat)
  | single (statement : Statement)
  deriving DecidableEq

/-- The marker of a list of compound rules. -/
def compoundMarker : Text := "COMPOUNDRULE".toList

/-- The marker of a replacement. -/
def replacementMarker : Text := ['R', 'E', 'P']

/-- Reads the header of a rule; the marker nearest to the code says what kind of rule it is. -/
def readRuleHeader (columns : List Text) : Header :=
  let shifted := columns.drop (shift columns)
  match shifted with
  | marker :: rest =>
    match AffixKind.ofMarker? marker, rest with
    | some kind, code :: combinable :: count :: _ =>
      match Text.count? count with
      | some count => .rule kind code (combinable = ['Y']) count
      | none => .malformed kind.marker
    | some kind, _ => .malformed kind.marker
    | none, _ => .blank
  | [] => .blank

/-- Reads the columns of a line that starts a statement. -/
def readHeader (columns : List Text) : Header :=
  match columns with
  | [] => .blank
  | directive :: rest =>
    if (AffixKind.ofMarker? directive).isSome then readRuleHeader columns
    else if directive = compoundMarker then
      match rest.head?.bind Text.count? with
      | some count => .compounds count
      | none => .malformed directive
    else if directive = replacementMarker then
      match rest with
      | [source, target] => .single (.replacement ⟨source, target⟩)
      | _ => .blank
    else .single (.setting directive (rest.headD []))

/-- Reads the statements of a file from line `number` on. -/
def readFrom (number : Nat) : List Text → Logged (Except TruncatedBlock (List Statement))
  | [] => pure (.ok [])
  | line :: rest =>
    let block (directive : Text) (count : Nat) (read : List Text → Logged Statement) :
        Logged (Except TruncatedBlock (List Statement)) :=
      if rest.length < count then pure (.error ⟨directive, number, count, rest.length⟩)
      else do
        let statement ← read (rest.take count)
        return (← readFrom (number + 1 + count) (rest.drop count)).map (statement :: ·)
    match readHeader (columns line) with
    | .blank => readFrom (number + 1) rest
    | .malformed directive => do
      Logged.note .warn s!"line {number}: malformed {directive.string} header, skipped"
      readFrom (number + 1) rest
    | .rule kind code combinable count =>
      block kind.marker count fun lines => do
        return .rule code ⟨kind, combinable, ← readEntries kind (number + 1) lines⟩
    | .compounds count =>
      block compoundMarker count fun lines => do
        return .compounds (← readCompounds (number + 1) lines)
    | .single statement => do
      return (← readFrom (number + 1) rest).map (statement :: ·)
termination_by lines => lines.length
decreasing_by
  all_goals
    simp only [List.length_drop, List.length_cons]
    omega

/-- Reads the statements of an affix file. -/
def readAll (text : Text) : Logged (Except TruncatedBlock (List Statement)) :=
  readFrom 1 (Text.lines (Text.dropMark text))

end Statement

end Orthography
