import Orthography.Text.Basic

/-!
# Replacements

Misspellings that are common in a language, each as a piece of text and what should stand for it.
Rewriting a word replaces one occurrence at a time.
-/

namespace Orthography

/-- A misspelt piece of a word and what should stand for it. -/
structure Replacement where
  source : Text
  target : Text
  deriving DecidableEq, Repr

namespace Replacement

/-- Where `part` occurs in a text from `position` on, leaving out occurrences that overlap an
earlier one; the next `skipped` characters belong to one. -/
def sitesFrom (part : Text) (position : Nat) : (skipped : Nat) → Text → List Nat
  | _, [] => []
  | skipped + 1, _ :: rest => sitesFrom part (position + 1) skipped rest
  | 0, c :: rest =>
    if part.isPrefixOf (c :: rest) then
      position :: sitesFrom part (position + 1) (part.length - 1) rest
    else sitesFrom part (position + 1) 0 rest

/-- Where `part` occurs in a word, from left to right without overlap. -/
def sites (part word : Text) : List Nat := sitesFrom part 0 0 word

/-- What stands for the source: the target, in which an underscore is written for a blank. -/
def inserted (replacement : Replacement) : Text :=
  replacement.target.map fun c => if c = '_' then ' ' else c

/-- A word with the occurrence of the source at a position replaced. -/
def rewriteAt (replacement : Replacement) (word : Text) (position : Nat) : Text :=
  word.take position ++ replacement.inserted ++
    word.drop (position + replacement.source.length)

/-- The words that replacing one occurrence gives; an empty source gives none. -/
def rewrites (replacement : Replacement) (word : Text) : List Text :=
  if replacement.source.isEmpty then []
  else (sites replacement.source word).map (replacement.rewriteAt word)

/-- The rewrites of a word by each replacement in turn. -/
def variants (replacements : List Replacement) (word : Text) : List Text :=
  replacements.flatMap (·.rewrites word)

end Replacement

end Orthography
