import Mathlib.Data.List.TakeWhile
import Orthography.Pattern.Scan

/-!
# What an escape consists of

The escapes that take up more than a letter: hexadecimal digits, the name of a property and the name
of a kind of word boundary.  Each is said as a relation on the characters that count, beside the
scanner that looks for it, with an equivalence between the two.  What a scanner leaves and what it
does inside a longer pattern are then questions about the relation.
-/

namespace Orthography.Pattern

variable {spaced : Bool} {cursor behind : Cursor} {sign : Sign} {chars : List (Char × Nat)}

/-- Digits without a fault are hexadecimal. -/
theorem isHex_of_hexFault? {digits : List (Char × Nat)} (hfault : hexFault? digits = none) :
    ∀ digit ∈ digits, isHex digit.1 = true := by
  intro digit hdigit
  unfold hexFault? at hfault
  rw [Option.map_eq_none_iff, List.find?_eq_none] at hfault
  simpa using hfault digit hdigit

/-! ### Braces -/

/-- What stands between braces at the start of some characters, and the closing brace. -/
inductive Braced (chars : List (Char × Nat)) : List (Char × Nat) → Char × Nat → Prop
  | intro {opened : Nat} {inside after : List (Char × Nat)} {closing : Char × Nat}
      (hstart : chars = ('{', opened) :: inside)
      (hends : inside.drop (inside.takeWhile (·.1 != '}')).length = closing :: after) :
      Braced chars (inside.takeWhile (·.1 != '}')) closing

/-- The closing brace is one of the characters. -/
theorem Braced.mem {name : List (Char × Nat)} {closing : Char × Nat}
    (hbraced : Braced chars name closing) : closing ∈ chars := by
  obtain ⟨rfl, hends⟩ := hbraced
  exact List.mem_cons_of_mem _ (List.mem_of_mem_drop (hends ▸ List.mem_cons_self))

/-! ### Hexadecimal digits -/

/-- The digits of an escape, the last character that it takes up, and whether it stands for a byte:
what is between braces, or as many characters as are asked for. -/
inductive HexDigits (width : Nat) (chars : List (Char × Nat)) :
    List (Char × Nat) → Char × Nat → Bool → Prop
  | braced {digits : List (Char × Nat)} {closing : Char × Nat}
      (hbraced : Braced chars digits closing) (hsome : digits.isEmpty = false) :
      HexDigits width chars digits closing false
  | counted {c : Char} {begun : Nat} {others : List (Char × Nat)} {last : Char × Nat}
      (hstart : chars = (c, begun) :: others) (hbrace : c ≠ '{') (henough : width ≤ chars.length)
      (hlast : (chars.take width).getLast? = some last) :
      HexDigits width chars (chars.take width) last (width == 2)

/-- The last character of the digits is one of the characters. -/
theorem HexDigits.mem {width : Nat} {digits : List (Char × Nat)} {last : Char × Nat} {byte : Bool}
    (hdigits : HexDigits width chars digits last byte) : last ∈ chars := by
  cases hdigits with
  | braced hbraced => exact hbraced.mem
  | counted hstart hbrace henough hlast => exact List.mem_of_mem_take (List.mem_of_getLast? hlast)

/-- Digits are read exactly if they are hexadecimal and there is a character that they stand for. -/
theorem scanHex_eq_ok_iff {width : Nat} (hwidth : 0 < width) :
    scanHex spaced width cursor = .ok (sign, behind) ↔
      ∃ digits last byte c, HexDigits width (cursor.counting spaced) digits last byte ∧
        hexFault? digits = none ∧ hexChar? (digits.map (·.1)) = some c ∧
        sign = .literal c byte ∧ behind = cursor.moveTo (last.2 + 1) := by
  constructor
  · intro hscan
    unfold scanHex at hscan
    split at hscan
    · cases hscan
    · rename_i opened inside hstart
      dsimp only at hscan
      split at hscan
      · cases hscan
      · cases hscan
      · rename_i x closed after hfault hends
        split at hscan
        · cases hscan
        · rename_i hsome
          split at hscan
          · rename_i c hchar
            cases hscan
            exact ⟨_, _, _, c, .braced ⟨hstart, hends⟩ (Bool.eq_false_iff.mpr hsome), hfault, hchar,
              rfl, rfl⟩
          · cases hscan
    · rename_i first begun others hbrace hstart
      dsimp only at hscan
      rw [← hstart] at hscan
      split at hscan
      · cases hscan
      · rename_i hfault
        split at hscan
        · cases hscan
        · rename_i hlength
          rw [List.length_take, Nat.not_lt, Nat.le_min] at hlength
          obtain ⟨last, hlast⟩ : ∃ last, ((cursor.counting spaced).take width).getLast? =
              some last := by
            refine ⟨_, List.getLast?_eq_some_getLast ?_⟩
            rw [Ne, List.take_eq_nil_iff, not_or, ← List.length_eq_zero_iff]
            omega
          rw [hlast, Option.map_some, Option.getD_some] at hscan
          split at hscan
          · rename_i c hchar
            cases hscan
            exact ⟨_, _, _, c, .counted hstart hbrace hlength.2 hlast, hfault, hchar, rfl, rfl⟩
          · cases hscan
  · rintro ⟨digits, last, byte, c, hdigits, hfault, hchar, rfl, rfl⟩
    unfold scanHex
    cases hdigits with
    | braced hbraced hsome =>
        obtain ⟨hstart, hends⟩ := hbraced
        simp only [hstart, hends, hfault, hsome, hchar, Bool.false_eq_true, if_false]
    | counted hstart hbrace henough hlast =>
        have hlength : ¬ ((cursor.counting spaced).take width).length < width := by
          rw [List.length_take]
          omega
        split
        · rename_i hnone
          rw [hstart] at hnone
          cases hnone
        · rename_i hbegun
          rw [hstart] at hbegun
          cases hbegun
          exact absurd rfl hbrace
        · rename_i hsame
          simp only [← hsame, hfault, hlength, hchar, hlast, Option.map_some, Option.getD_some,
            if_false]

/-! ### Properties -/

/-- The name of a property, whether its value is denied, and the last character that it takes up:
what is between braces, or one character. -/
inductive Named (chars : List (Char × Nat)) : PropertyName × Bool → Char × Nat → Prop
  | braced {name : List (Char × Nat)} {closing : Char × Nat}
      (hbraced : Braced chars name closing) :
      Named chars (propertyName (name.map (·.1))) closing
  | letter {c : Char} {position : Nat} {others : List (Char × Nat)}
      (hstart : chars = (c, position) :: others) (hbrace : c ≠ '{') (hslash : c ≠ '\\') :
      Named chars (.word [c], false) (c, position)

/-- The last character of a name is one of the characters. -/
theorem Named.mem {named : PropertyName × Bool} {last : Char × Nat}
    (hnamed : Named chars named last) : last ∈ chars := by
  cases hnamed with
  | braced hbraced => exact hbraced.mem
  | letter hstart => exact hstart ▸ List.mem_cons_self

/-- A property is read exactly if it has a name. -/
theorem scanProperty_eq_ok_iff {negated : Bool} :
    scanProperty spaced negated cursor = .ok (sign, behind) ↔
      ∃ named last, Named (cursor.counting spaced) named last ∧
        sign = .property named.1 (negated != named.2) ∧ behind = cursor.moveTo (last.2 + 1) := by
  constructor
  · intro hscan
    unfold scanProperty at hscan
    split at hscan
    · cases hscan
    · rename_i opened inside hstart
      dsimp only at hscan
      split at hscan
      · cases hscan
      · rename_i x closed after hends
        cases hscan
        exact ⟨_, _, .braced ⟨hstart, hends⟩, rfl, rfl⟩
    · cases hscan
    · rename_i c position others hbrace hslash hstart
      cases hscan
      exact ⟨_, _, .letter hstart hbrace hslash, by rw [Bool.bne_false], rfl⟩
  · rintro ⟨named, last, hnamed, rfl, rfl⟩
    unfold scanProperty
    cases hnamed with
    | braced hbraced =>
        obtain ⟨hstart, hends⟩ := hbraced
        simp only [hstart, hends]
    | letter hstart hbrace hslash => simp [hstart]

/-! ### Word boundaries -/

/-- Whether a character can stand in the name of a kind of word boundary. -/
def isBoundaryLetter (c : Char) : Bool := c.isAlpha || c == '-'

/-- The kind of a word boundary and what is left behind it: a name in braces, or no more than the
letter, where no braces follow or what they hold does not start like a name. -/
inductive Boundary (spaced : Bool) (cursor : Cursor) : PlaceSign → Cursor → Prop
  | bare (hbrace : cursor.rest.head? ≠ some '{') : Boundary spaced cursor .boundary cursor
  | repetition {first : Char × Nat} (hbrace : cursor.rest.head? = some '{')
      (hstart : ((cursor.skip 1).counting spaced).head? = some first)
      (hletter : isBoundaryLetter first.1 = false) : Boundary spaced cursor .boundary cursor
  | named {name after : List (Char × Nat)} {closed : Nat} {entry : List Char × PlaceSign}
      (hbrace : cursor.rest.head? = some '{')
      (hname : name = ((cursor.skip 1).counting spaced).takeWhile (isBoundaryLetter ·.1))
      (hends : ((cursor.skip 1).counting spaced).drop name.length = ('}', closed) :: after)
      (hentry : boundaryNames.find? (·.1 == name.map (·.1)) = some entry) :
      Boundary spaced cursor entry.2 (cursor.moveTo (closed + 1))

/-- A word boundary is read exactly if it is one. -/
theorem scanBoundary_eq_ok_iff {start : Nat} :
    scanBoundary spaced start cursor = .ok (sign, behind) ↔
      ∃ place, Boundary spaced cursor place behind ∧ sign = .place place := by
  constructor
  · intro hscan
    unfold scanBoundary at hscan
    split at hscan
    · rename_i hbrace
      cases hscan
      exact ⟨_, .bare (by simpa using hbrace), rfl⟩
    · rename_i hbrace
      rw [bne_iff_ne, not_not] at hbrace
      split at hscan
      · cases hscan
      · rename_i first begun others hstart
        dsimp only at hscan
        split at hscan
        · rename_i hletter
          cases hscan
          rw [Bool.not_eq_true'] at hletter
          exact ⟨_, .repetition hbrace (congrArg List.head? hstart) hletter, rfl⟩
        · split at hscan
          · rename_i closed after hends
            split at hscan
            · rename_i place hplace
              cases hscan
              obtain ⟨entry, hentry, rfl⟩ := Option.map_eq_some_iff.mp hplace
              rw [← hstart] at hends hentry
              exact ⟨_, .named hbrace rfl hends hentry, rfl⟩
            · cases hscan
          · cases hscan
          · cases hscan
  · rintro ⟨place, hboundary, rfl⟩
    unfold scanBoundary
    cases hboundary with
    | bare hbrace => rw [if_pos (by simpa using hbrace)]
    | repetition hbrace hstart hletter =>
        obtain ⟨others, hcounting⟩ := List.head?_eq_some_iff.mp hstart
        rw [isBoundaryLetter] at hletter
        simp [hbrace, hcounting, hletter]
    | named hbrace hname hends hentry =>
        subst hname
        cases hcounting : (cursor.skip 1).counting spaced with
        | nil =>
            rw [hcounting] at hends
            cases hends
        | cons first others =>
            rw [hcounting] at hends hentry
            -- None of the names is empty.
            have hletter : isBoundaryLetter first.1 = true := by
              by_contra hletter
              rw [List.takeWhile_cons, if_neg hletter] at hentry
              cases hentry
            simp only [isBoundaryLetter] at hletter hends hentry
            rw [if_neg (by simp [hbrace])]
            simp only [hletter, hends, hentry, Option.map_some, Bool.not_true, Bool.false_eq_true,
              if_false]

end Orthography.Pattern
