import Orthography.Text.Basic

/-!
# Faults of patterns

Why a text is no pattern, where the fault lies, and the report that shows it under the text.
-/

namespace Orthography.Pattern

/-- The characters of a pattern from `start` up to but not including `stop`. -/
structure Span where
  start : Nat
  stop : Nat
  deriving DecidableEq, Repr

/-- What is wrong with a pattern. -/
inductive FaultKind where
  | classEscapeInvalid
  | classRangeInvalid
  | classRangeLiteral
  | classUnclosed
  | decimalInvalid
  | escapeHexEmpty
  | escapeHexInvalid
  | escapeHexInvalidDigit
  | escapeUnfinished
  | escapeUnrecognized
  | flagDanglingNegation
  | flagDuplicate
  | flagRepeatedNegation
  | flagUnfinished
  | flagUnrecognized
  | groupNameDuplicate
  | groupNameEmpty
  | groupNameInvalid
  | groupNameUnfinished
  | groupUnclosed
  | groupUnopened
  | nestingTooDeep (limit : Nat)
  | repetitionRangeInvalid
  | repetitionDecimalEmpty
  | repetitionUnclosed
  | repetitionMissing
  | boundaryUnclosed
  | boundaryUnrecognized
  | boundaryUnfinished
  | propertyInvalid
  | backreference
  | lookAround
  | unicodeNotAllowed
  | notText
  | propertyUnknown
  | propertyValueUnknown
  deriving DecidableEq, Repr

/-- The wording of a fault. -/
def FaultKind.message : FaultKind → String
  | classEscapeInvalid => "invalid escape sequence found in character class"
  | classRangeInvalid => "invalid character class range, the start must be <= the end"
  | classRangeLiteral => "invalid range boundary, must be a literal"
  | classUnclosed => "unclosed character class"
  | decimalInvalid => "decimal literal invalid"
  | escapeHexEmpty => "hexadecimal literal empty"
  | escapeHexInvalid => "hexadecimal literal is not a Unicode scalar value"
  | escapeHexInvalidDigit => "invalid hexadecimal digit"
  | escapeUnfinished => "incomplete escape sequence, reached end of pattern prematurely"
  | escapeUnrecognized => "unrecognized escape sequence"
  | flagDanglingNegation => "dangling flag negation operator"
  | flagDuplicate => "duplicate flag"
  | flagRepeatedNegation => "flag negation operator repeated"
  | flagUnfinished => "expected flag but got end of regex"
  | flagUnrecognized => "unrecognized flag"
  | groupNameDuplicate => "duplicate capture group name"
  | groupNameEmpty => "empty capture group name"
  | groupNameInvalid => "invalid capture group character"
  | groupNameUnfinished => "unclosed capture group name"
  | groupUnclosed => "unclosed group"
  | groupUnopened => "unopened group"
  | nestingTooDeep limit =>
    s!"exceed the maximum number of nested parentheses/brackets ({limit})"
  | repetitionRangeInvalid => "invalid repetition count range, the start must be <= the end"
  | repetitionDecimalEmpty => "repetition quantifier expects a valid decimal"
  | repetitionUnclosed => "unclosed counted repetition"
  | repetitionMissing => "repetition operator missing expression"
  | boundaryUnclosed =>
    "special word boundary assertion is either unclosed or contains an invalid character"
  | boundaryUnrecognized =>
    "unrecognized special word boundary assertion, valid choices are: start, end, start-half or " ++
      "end-half"
  | boundaryUnfinished =>
    "found either the beginning of a special word boundary or a bounded repetition on a \\b " ++
      "with an opening brace, but no closing brace"
  | propertyInvalid => "invalid Unicode character class"
  | backreference => "backreferences are not supported"
  | lookAround => "look-around, including look-ahead and look-behind, is not supported"
  | unicodeNotAllowed => "Unicode not allowed here"
  | notText => "pattern can match invalid UTF-8"
  | propertyUnknown => "Unicode property not found"
  | propertyValueUnknown => "Unicode property value not found"

/-- A fault and its place, with the earlier place that it repeats, if it does. -/
structure Fault where
  kind : FaultKind
  span : Span
  earlier : Option Span
  deriving DecidableEq, Repr

/-- A fault at one place. -/
def Fault.at (kind : FaultKind) (start stop : Nat) : Fault := ⟨kind, ⟨start, stop⟩, none⟩

/-- Carets under the characters of a span, after the column where earlier carets ended. -/
def Span.carets (column : Nat) (span : Span) : List Char :=
  List.replicate (span.start - column) ' ' ++ List.replicate (max 1 (span.stop - span.start)) '^'

/-- The line of carets for a fault. -/
def Fault.carets (fault : Fault) : List Char :=
  match fault.earlier with
  | none => fault.span.carets 0
  | some earlier =>
    let first := earlier.carets 0
    first ++ fault.span.carets first.length

/-- A pattern that was refused, with its first fault. -/
structure Refusal where
  pattern : Text
  fault : Fault
  deriving DecidableEq, Repr

/-- The report of a refusal: the pattern, carets under the fault, and what it is. -/
def Refusal.message (refusal : Refusal) : String :=
  let text := refusal.pattern.string
  let marks := Text.string refusal.fault.carets
  s!"regex parse error:\n    {text}\n    {marks}\nerror: {refusal.fault.kind.message}"

end Orthography.Pattern
