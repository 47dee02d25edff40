import Orthography.Text.Basic

/-!
# Weights

How frequent a word is, as a binary floating-point number of 64 bits.  Weights are read from
decimals, compared and written, never calculated with; so a weight is its bits, and reading and
writing are done on whole numbers.
-/

namespace Orthography

/-- A floating-point number of 64 bits: a sign, eleven bits of exponent and 52 of fraction. -/
structure Weight where
  bits : UInt64
  deriving DecidableEq, Repr

namespace Weight

/-- The weight of words that are not listed. -/
def zero : Weight := ⟨0⟩

/-- The bit of the sign. -/
def signBit : Nat := 0x8000000000000000

/-- One more than the greatest fraction: the bits of the exponent start here. -/
def exponentUnit : Nat := 0x10000000000000

/-- The bits of an infinite magnitude. -/
def infinityBits : Nat := 0x7FF0000000000000

/-- The bits of a magnitude that is no number. -/
def nanBits : Nat := 0x7FF8000000000000

/-- A weight with a sign and the bits of a magnitude. -/
def ofParts (negative : Bool) (magnitude : Nat) : Weight :=
  ⟨UInt64.ofNat (magnitude + if negative then signBit else 0)⟩

/-- Whether the sign is minus. -/
def isNegative (weight : Weight) : Bool := signBit ≤ weight.bits.toNat

/-- The bits without the sign. -/
def magnitude (weight : Weight) : Nat := weight.bits.toNat % signBit

/-- Whether a weight is neither infinite nor no number. -/
def isFinite (weight : Weight) : Bool := weight.magnitude < infinityBits

/-- The place of a weight in the total order of floating-point numbers: minus zero comes before
zero, and what is no number comes at the ends. -/
def rank (weight : Weight) : Int :=
  if weight.isNegative then -1 - (weight.magnitude : Int) else weight.magnitude

/-- The whole number nearest to a fraction, of two equally near ones the even one. -/
def roundHalfEven (numerator denominator : Nat) : Nat :=
  let quotient := numerator / denominator
  let twice := 2 * (numerator % denominator)
  if twice < denominator then quotient
  else if denominator < twice then quotient + 1
  else quotient + quotient % 2

/-- The fraction divided by the power of two with exponent `exponent`. -/
def scaled (numerator denominator : Nat) (exponent : Int) : Nat × Nat :=
  (numerator * Nat.pow 2 (-exponent).toNat, denominator * Nat.pow 2 exponent.toNat)

/-- The bits of the magnitude nearest to a positive fraction.  The exponent is the one that leaves
53 bits, or the least there is; a carry into the exponent gives the right bits by itself. -/
def roundedBits (numerator denominator : Nat) : Nat :=
  let guess : Int := (numerator.log2 : Int) - denominator.log2 - 52
  let (n, d) := scaled numerator denominator guess
  let exponent := max (if n < d * exponentUnit then guess - 1 else guess) (-1074)
  let (n, d) := scaled numerator denominator exponent
  min ((exponent + 1074).toNat * exponentUnit + roundHalfEven n d) infinityBits

/-- The weight nearest to `digits · 10 ^ exponent`, where `digits` is written with `length` digits
and no leading zeros.  Exponents that put the number beyond the largest or below the smallest
magnitude are told from the number of digits. -/
def ofDecimal (negative : Bool) (digits : Nat) (length : Nat) (exponent : Int) : Weight :=
  if digits = 0 then ofParts negative 0
  else if 400 < exponent + length then ofParts negative infinityBits
  else if exponent + length < -400 then ofParts negative 0
  else ofParts negative
    (roundedBits (digits * Nat.pow 10 exponent.toNat) (Nat.pow 10 (-exponent).toNat))

/-- Takes a sign from the start of a text. -/
def takeSign : Text → Bool × Text
  | '-' :: rest => (true, rest)
  | '+' :: rest => (false, rest)
  | text => (false, text)

/-- Reads what follows the digits of a decimal: nothing, or an exponent. -/
def readExponent? : Text → Option Int
  | [] => some 0
  | mark :: rest =>
    if mark = 'e' || mark = 'E' then
      let (negative, digits) := takeSign rest
      (Text.natural? digits).map fun value => if negative then -(value : Int) else value
    else none

/-- Reads a decimal without its sign: digits with an optional point among, before or behind them,
and an optional exponent. -/
def readDecimal? (negative : Bool) (text : Text) : Option Weight :=
  let whole := text.takeWhile Char.isDigit
  let behind := text.dropWhile Char.isDigit
  let (fraction, rest) := match behind with
    | '.' :: after => (after.takeWhile Char.isDigit, after.dropWhile Char.isDigit)
    | _ => ([], behind)
  let digits := whole ++ fraction
  if digits.isEmpty then none
  else (readExponent? rest).map fun exponent =>
    let significant := digits.dropWhile (· == '0')
    ofDecimal negative (Text.digitsValue significant) significant.length
      (exponent - fraction.length)

/-- Reads a weight: a decimal, or the name of a number that is not finite. -/
def read? (text : Text) : Option Weight :=
  let (negative, rest) := takeSign text
  match Text.string (rest.map Char.toLower) with
  | "inf" | "infinity" => some (ofParts negative infinityBits)
  | "nan" => some (ofParts negative nanBits)
  | _ => readDecimal? negative rest

/-! ### Writing -/

/-- A magnitude as a whole number times a power of two. -/
def significand (magnitude : Nat) : Nat × Int :=
  let exponent := magnitude / exponentUnit
  let fraction := magnitude % exponentUnit
  if exponent = 0 then (fraction, -1074) else (exponentUnit + fraction, (exponent : Int) - 1075)

/-- The numbers that are read as a given magnitude, in units of `1 / denominator`: the value, and
how far it may be left below and above, where `closed` says whether the ends belong to them. -/
structure Reading where
  value : Nat
  below : Nat
  above : Nat
  denominator : Nat
  closed : Bool

/-- The numbers that are read as a positive magnitude.  Below a power of two the distance to the
next magnitude is half of that above. -/
def readingOf (magnitude : Nat) : Reading :=
  let (digits, exponent) := significand magnitude
  let unit := Nat.pow 2 exponent.toNat
  let below := if digits = exponentUnit && 1 < magnitude / exponentUnit then 1 else 2
  ⟨4 * digits * unit, below * unit, 2 * unit, 4 * Nat.pow 2 (-exponent).toNat, digits % 2 = 0⟩

/-- Whether a number, in the units of a reading times `scale`, is read back. -/
def Reading.admits (reading : Reading) (scale number : Nat) : Bool :=
  let low := (reading.value - reading.below) * scale
  let high := (reading.value + reading.above) * scale
  if reading.closed then low ≤ number && number ≤ high else low < number && number < high

/-- The nearest multiple of `10 ^ exponent` that is read back, if one of the two nearest is; of two
equally near ones the larger. -/
def Reading.onGrid? (reading : Reading) (exponent : Int) : Option Nat :=
  let scale := Nat.pow 10 (-exponent).toNat
  let unit := reading.denominator * Nat.pow 10 exponent.toNat
  let value := reading.value * scale
  let low := value / unit
  let lowFits := 0 < low && reading.admits scale (low * unit)
  let highFits := reading.admits scale ((low + 1) * unit)
  if highFits && (!lowFits || unit ≤ 2 * (value - low * unit)) then some (low + 1)
  else if lowFits then some low
  else none

/-- The shortest decimal that is read back, on the coarsest of the grids from `exponent` down. -/
def Reading.shortestFrom (reading : Reading) : (grids : Nat) → (exponent : Int) → Nat × Int
  | 0, exponent => (0, exponent)
  | grids + 1, exponent =>
    match reading.onGrid? exponent with
    | some digits => (digits, exponent)
    | none => reading.shortestFrom grids (exponent - 1)

/-- A decimal in positional notation, without an exponent. -/
def positional (digits : Nat) (exponent : Int) : String :=
  let written := toString digits
  if 0 ≤ exponent then written ++ String.ofList (List.replicate exponent.toNat '0')
  else
    let places := (-exponent).toNat
    let chars := written.toList
    if places < chars.length then
      String.ofList (chars.take (chars.length - places)) ++ "." ++
        String.ofList (chars.drop (chars.length - places))
    else "0." ++ String.ofList (List.replicate (places - chars.length) '0') ++ written

/-- A weight as the shortest decimal that is read back as the same weight. -/
def write (weight : Weight) : String :=
  let sign := if weight.isNegative then "-" else ""
  if infinityBits < weight.magnitude then "NaN"
  else if weight.magnitude = infinityBits then sign ++ "inf"
  else if weight.magnitude = 0 then sign ++ "0"
  else
    let (digits, exponent) := (readingOf weight.magnitude).shortestFrom 640 310
    sign ++ positional digits exponent

end Weight

end Orthography
