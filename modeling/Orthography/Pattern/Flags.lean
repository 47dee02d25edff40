import Orthography.Pattern.ClassScan
import Orthography.Pattern.Node

/-!
# Flags and what signs mean under them

A sign of a pattern means a set of characters or a condition on a place.  Which one depends on the
flags: letters may fold, lines may end at carriage returns, and classes may be confined to ASCII.
Without the flag `u` a pattern speaks of bytes, and what could match half a character is refused.
-/

namespace Orthography.Pattern

open Character

/-- The flags in force at a place of a pattern. -/
structure Flags where
  ignoreCase : Bool
  multiLine : Bool
  dotAll : Bool
  swapGreed : Bool
  unicode : Bool
  carriageReturn : Bool
  spaced : Bool
  deriving DecidableEq, Repr

/-- The flags at the start of a pattern. -/
def Flags.initial (ignoreCase : Bool) : Flags :=
  ⟨ignoreCase, false, false, false, true, false, false⟩

/-- The flags after one flag is set or cleared. -/
def Flags.set (flags : Flags) (value : Bool) : FlagSign → Flags
  | .ignoreCase => { flags with ignoreCase := value }
  | .multiLine => { flags with multiLine := value }
  | .dotAll => { flags with dotAll := value }
  | .swapGreed => { flags with swapGreed := value }
  | .unicode => { flags with unicode := value }
  | .carriageReturn => { flags with carriageReturn := value }
  | .spaced => { flags with spaced := value }

/-- The flags after a list of flags is carried out. -/
def Flags.apply (flags : Flags) (list : FlagList) : Flags :=
  list.flags.foldl (fun flags (sign, value, _) => flags.set value sign) flags

/-- A set under the flags: closed under case, if case is ignored. -/
def Flags.recase (flags : Flags) (set : CharSet) : CharSet :=
  if flags.ignoreCase then (if flags.unicode then .folded set else .recased set) else set

/-- The complement of a set if `negated`; a set of bytes has none that is text. -/
def Flags.negate (flags : Flags) (negated : Bool) (span : Span) (set : CharSet) :
    Except Fault CharSet :=
  if !negated then .ok set
  else if flags.unicode then .ok (.compl set)
  else .error ⟨.notText, span, none⟩

/-- The union of ranges. -/
def CharSet.ofRanges (ranges : List (Char × Char)) : CharSet :=
  ranges.foldr (fun (low, high) set => .union (.range low high) set) .none

/-- The characters of a one-letter class; without the flag `u` only those of ASCII. -/
def LetterClass.set (unicode : Bool) : LetterClass → CharSet
  | .digit => if unicode then .property (.category ["Nd"]) else .range '0' '9'
  | .blank =>
    if unicode then .property .blank else .chars [' ', '\t', '\n', '\x0B', '\x0C', '\r']
  | .word =>
    if unicode then .wordPart
    else .ofRanges [('0', '9'), ('A', 'Z'), ('_', '_'), ('a', 'z')]

/-- The characters of a class named between colons, all of them ASCII. -/
def NamedClass.set : NamedClass → CharSet
  | alnum => .ofRanges [('0', '9'), ('A', 'Z'), ('a', 'z')]
  | alpha => .ofRanges [('A', 'Z'), ('a', 'z')]
  | ascii => .range '\x00' '\x7F'
  | blank => .chars ['\t', ' ']
  | cntrl => .ofRanges [('\x00', '\x1F'), ('\x7F', '\x7F')]
  | digit => .range '0' '9'
  | graph => .range '!' '~'
  | lower => .range 'a' 'z'
  | print => .range ' ' '~'
  | punct => .ofRanges [('!', '/'), (':', '@'), ('[', '\x60'), ('\x7B', '~')]
  | space => .chars ['\t', '\n', '\x0B', '\x0C', '\r', ' ']
  | upper => .range 'A' 'Z'
  | word => .ofRanges [('0', '9'), ('A', 'Z'), ('_', '_'), ('a', 'z')]
  | xdigit => .ofRanges [('0', '9'), ('A', 'F'), ('a', 'f')]

/-- The kind of fault that a faulty name of a property is. -/
def faultKindOfName : NameFault → FaultKind
  | .name => .propertyUnknown
  | .value => .propertyValueUnknown

/-- The property with a name. -/
def PropertyName.find (span : Span) (name : PropertyName) : Except Fault Property :=
  let found := match name with
    | word name => Property.ofName name
    | value name chosen => Property.ofValue name chosen
  found.mapError fun fault => ⟨faultKindOfName fault, span, none⟩

/-- The characters of a named property. -/
def Flags.property (flags : Flags) (name : PropertyName) (negated : Bool) (span : Span) :
    Except Fault CharSet := do
  if !flags.unicode then throw ⟨.unicodeNotAllowed, span, none⟩
  flags.negate negated span (flags.recase (.property (← name.find span)))

/-- A character of a class; without the flag `u` it has to be an ASCII character. -/
def Flags.member (flags : Flags) (c : Char) (byte : Bool) (span : Span) : Except Fault Char :=
  if flags.unicode || c.toNat < 128 then .ok c
  else .error ⟨if byte then .notText else .unicodeNotAllowed, span, none⟩

/-- The set that an operator makes of its sides. -/
def SetOperation.apply : SetOperation → CharSet → CharSet → CharSet
  | intersection, a, b => .inter a b
  | difference, a, b => .inter a (.compl b)
  | symmetricDifference, a, b => .union (.inter a (.compl b)) (.inter b (.compl a))

/-- The characters of a written class.  Case is ignored before a class is negated or combined. -/
def ClassItem.set (flags : Flags) : ClassItem → Except Fault CharSet
  | nothing => .ok .none
  | literal c byte span => do return .chars [← flags.member c byte span]
  | range low high lowByte highByte lowSpan highSpan => do
    return .range (← flags.member low lowByte lowSpan) (← flags.member high highByte highSpan)
  | letterClass sort negated span => flags.negate negated span (sort.set flags.unicode)
  | property name negated span => flags.property name negated span
  | named name negated span => flags.negate negated span (flags.recase name.set)
  | both first second => do return .union (← first.set flags) (← second.set flags)
  | combined operation left right => do
    let left ← left.set flags
    let right ← right.set flags
    return operation.apply (flags.recase left) (flags.recase right)
  | bracket content negated span => do
    flags.negate negated span (flags.recase (← content.set flags))

/-- The condition that a place sign stands for. -/
def Flags.place (flags : Flags) : PlaceSign → Place
  | .lineStart =>
    if flags.multiLine then (if flags.carriageReturn then .returnStart else .lineStart)
    else .textStart
  | .lineEnd =>
    if flags.multiLine then (if flags.carriageReturn then .returnEnd else .lineEnd)
    else .textEnd
  | .textStart => .textStart
  | .textEnd => .textEnd
  | .boundary => .boundary !flags.unicode
  | .notBoundary => .notBoundary !flags.unicode
  | .wordStart => .wordStart !flags.unicode
  | .wordEnd => .wordEnd !flags.unicode
  | .wordStartHalf => .wordStartHalf !flags.unicode
  | .wordEndHalf => .wordEndHalf !flags.unicode

/-- The set that a single literal character matches. -/
def Flags.literal (flags : Flags) (c : Char) : CharSet :=
  if !flags.ignoreCase then .chars [c]
  else if flags.unicode then .chars (foldOrbit c)
  else .chars (asciiCases c)

/-- The pattern of one sign. -/
def Flags.node (flags : Flags) (span : Span) : Sign → Except Fault Node
  | .literal c byte =>
    if !flags.unicode && byte && 128 ≤ c.toNat then .error ⟨.notText, span, none⟩
    else .ok (.char (flags.literal c))
  | .dot =>
    if !flags.unicode then .error ⟨.notText, span, none⟩
    else if flags.dotAll then .ok (.char (.property .any))
    else if flags.carriageReturn then .ok (.char (.compl (.chars ['\r', '\n'])))
    else .ok (.char (.compl (.chars ['\n'])))
  | .place sign => .ok (.place (flags.place sign))
  | .letterClass sort negated => do
    return .char (← flags.negate negated span (sort.set flags.unicode))
  | .property name negated => do return .char (← flags.property name negated span)

end Orthography.Pattern
