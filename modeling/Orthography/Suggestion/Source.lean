import Orthography.Checking
import Orthography.Suggestion.Candidates

/-!
# Sources of corrections

Corrections come from rewriting the misspelt word by the replacements of the grammar, where every
piece of the result has to be a word, and from the forms of entries whose stems are near it.
-/

namespace Orthography

/-- Where corrections come from. -/
inductive Source where
  | replacements
  | stems
  deriving DecidableEq, Repr

namespace Source

/-- The sources that are used unless others are chosen, in order. -/
def usual : List Source := [replacements, stems]

/-- Whether every piece of a correction between blanks is a word. -/
def isSpelled (spell : Text → Logged Bool) (correction : Text) : Logged Bool :=
  .allOf (fun piece => if piece.isEmpty then pure false else spell piece)
    (correction.splitOn ' ')

/-- The rewrites of the misspelt word that are spelt right. -/
def rewrites (lexicon : Lexicon) (spell : Text → Logged Bool) (word : Text) :
    Logged (List Text) :=
  .gather ((Replacement.variants lexicon.grammar.replacements word).map fun correction =>
    (fun spelled => if spelled then some correction else none) <$> isSpelled spell correction)

/-- Whether an entry is near enough to a word for its forms to be looked at: one of its variants or
its stem is within the limit, or its stem is within the limit of a start of the word that is as
long. -/
def isNear (entry : Entry) (word : Text) (limit : Nat) : Bool :=
  entry.variants.any (fun variant => (Text.distanceWithin? variant word limit).isSome) ||
    (Text.distanceWithin? entry.stem word limit).isSome ||
    (Text.distanceWithin? entry.stem (word.take entry.stem.length) limit).isSome

/-- Whether the forms of an entry may be offered. -/
def mayOffer (lexicon : Lexicon) (entry : Entry) : Bool :=
  !lexicon.marks Settings.noSuggest entry && !lexicon.marks Settings.onlyInCompound entry

/-- The words that an entry gives, as they come: the stem, if it stands alone, and the forms. -/
def offered (lexicon : Lexicon) (entry : Entry) : Logged (List Text) :=
  (fun forms => (if lexicon.standsAlone entry then [entry.stem] else []) ++ forms) <$>
    lexicon.derived entry

/-- The words that the entries near a word give. -/
def nearForms (lexicon : Lexicon) (word : Text) (limit : Nat) : Logged (List Text) :=
  List.flatten <$> .gather ((lexicon.dictionary.entries.filter fun entry =>
    mayOffer lexicon entry && isNear entry word limit).map fun entry =>
      some <$> offered lexicon entry)

/-- The corrections that a source offers for a word. -/
def corrections (lexicon : Lexicon) (spell : Text → Logged Bool) (word : Text) (limit : Nat) :
    Source → Logged (List Text)
  | replacements => rewrites lexicon spell word
  | stems => nearForms lexicon word limit

/-- The corrections that sources offer for a word, collected one source after the other. -/
def collect (lexicon : Lexicon) (spell : Text → Logged Bool) (sources : List Source)
    (word : Text) (limit : Nat) : Logged Candidates :=
  (fun found => (Candidates.start word limit).addAll found.flatten) <$>
    .gather (sources.map fun source =>
      some <$> source.corrections lexicon spell word limit)

end Source

end Orthography
