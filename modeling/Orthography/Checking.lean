import Orthography.Lexicon
import Orthography.Normalization
import Orthography.Text.Case

/-!
# Checking

A word is known if an entry gives it, if it is a compound, if an entry gives it with its first
letter in lower case, or if an entry gives what normalization makes of it.
-/

namespace Orthography

/-- Whether a word is looked up as it is written or with its first letter lowered. -/
inductive CaseMode where
  | asWritten
  | lowered
  deriving DecidableEq, Repr

namespace Lexicon

/-- Whether an entry is considered at all: not if it is for compounds only, nor if it keeps its case
and the word has lost its own. -/
def considers (lexicon : Lexicon) (mode : CaseMode) (entry : Entry) : Bool :=
  !lexicon.marks Settings.onlyInCompound entry &&
    !(mode = .lowered && lexicon.marks Settings.keepCase entry)

/-- Whether an entry gives a word. -/
def gives (lexicon : Lexicon) (word : Text) (entry : Entry) (reach : Reach) : Logged Bool :=
  if entry.stem == word && lexicon.standsAlone entry then pure true
  else if entry.isBare || !couldGive entry reach word || !lexicon.admits entry word then pure false
  else .anyOf (fun code => lexicon.grammar.derivesByCode code entry.stem word) (ruleCodes entry)

/-- Whether some entry gives a word. -/
def givesWord (lexicon : Lexicon) (mode : CaseMode) (word : Text) : Logged Bool :=
  .anyOf (fun (entry, reach) =>
    if lexicon.considers mode entry then lexicon.gives word entry reach else pure false)
    lexicon.stems

/-- Whether a word is known. -/
def check (lexicon : Lexicon) (rules : List NormalizationRule) (word : Text) : Logged Bool :=
  if word.isEmpty then pure false
  else
    (lexicon.givesWord .asWritten word).orElse fun _ =>
    (pure (lexicon.matchesCompound word) : Logged Bool).orElse fun _ =>
    (match word.lowerFirst? with
      | some lowered => lexicon.givesWord .lowered lowered
      | none => pure false).orElse fun _ =>
    match NormalizationRule.normalize rules word with
    | .stripped rest => lexicon.givesWord .asWritten rest
    | .unchanged | .rejected => pure false

end Lexicon

end Orthography
