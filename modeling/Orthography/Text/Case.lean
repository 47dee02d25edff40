import Orthography.Character.Case
import Orthography.Text.Basic

/-!
# Case of words

The lower-case form of a whole word, the case shape of a word, and the two changes of its first
letter that checking and ranking use.
-/

namespace Orthography

open Character

/-- How the letters of a word are cased. -/
inductive CaseShape where
  /-- No character has a case. -/
  | noLetters
  /-- Every letter is lower-case, as in "cat". -/
  | allLower
  /-- The first letter is upper-case and the others are lower-case, as in "Cat". -/
  | firstUpper
  /-- Any other mixture, as in "caT". -/
  | mixed
  /-- Every letter is upper-case, as in "CAT". -/
  | allUpper
  deriving DecidableEq, Repr

namespace Text

/-- The case shape of a word; characters without a case do not count. -/
def caseShape (word : Text) : CaseShape :=
  match word.filter (fun c => isUpper c || isLower c) with
  | [] => .noLetters
  | first :: rest =>
    let upperRest := rest.any isUpper
    let lowerRest := rest.any (!isUpper ·)
    match isUpper first, upperRest, lowerRest with
    | true, _, false => .allUpper
    | true, false, true => .firstUpper
    | false, false, _ => .allLower
    | _, _, _ => .mixed

/-- A word that starts with an upper-case letter, with that letter lowered. -/
def lowerFirst? : Text → Option Text
  | [] => none
  | c :: rest => if isUpper c then some (toLower c ++ rest) else none

/-- A word with its first character in upper case and the rest as it is. -/
def upperFirst : Text → Text
  | [] => []
  | c :: rest => toUpper c ++ rest

/-- Whether the nearest character that is not passed over has a case. -/
def letterNext (chars : List Char) : Bool :=
  match chars.dropWhile isCaseIgnorable with
  | [] => false
  | c :: _ => isCased c

/-- The lower-case form of a word, after the characters `before` (nearest first).  A capital sigma
ends a word, and takes the final form, if a letter precedes it and none follows. -/
def lowerAfter (before : List Char) : Text → Text
  | [] => []
  | c :: rest =>
    let lowered :=
      if c = 'Σ' then
        if letterNext before && !letterNext rest then ['ς'] else ['σ']
      else toLower c
    lowered ++ lowerAfter (c :: before) rest

/-- The lower-case form of a word. -/
def lower (word : Text) : Text := lowerAfter [] word

end Text

end Orthography
