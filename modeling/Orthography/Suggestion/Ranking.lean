import Orthography.Suggestion.Source

/-!
# Ranking

The corrections of a word in the order in which they are offered.  A capitalized word is also
corrected with its first letter lowered, and then every correction is capitalized.
-/

namespace Orthography

namespace Candidates

/-- Capitalized corrections of a word, from those for the word and for its lowered form. -/
def capitalized (word : Text) (limit : Nat) (found : List Suggestion) : Candidates :=
  found.foldl (fun candidates suggestion =>
    (candidates.addAt suggestion.word.upperFirst suggestion.distance).1) (start word limit)

end Candidates

/-- What corrections are found with: the sources, the greatest distance, and the weights. -/
structure RankingOptions where
  sources : List Source
  limit : Nat
  frequencies : Frequencies

namespace Lexicon

/-- The candidates for a word: those that the sources offer for it and, if it is capitalized, for
its lowered form. -/
def candidates (lexicon : Lexicon) (rules : List NormalizationRule) (options : RankingOptions)
    (word : Text) : Logged Candidates :=
  let collect := Source.collect lexicon (lexicon.check rules) options.sources
  match word.caseShape, word.lowerFirst? with
  | .firstUpper, some lowered => do
    let found ← collect word options.limit
    let foundLowered ← collect lowered options.limit
    return .capitalized word options.limit (found.list ++ foundLowered.list)
  | _, _ => collect word options.limit

/-- All suggestions for a word, the best first. -/
def suggestions (lexicon : Lexicon) (rules : List NormalizationRule) (options : RankingOptions)
    (word : Text) : Logged (List Suggestion) :=
  (fun candidates => (candidates.rank options.frequencies).list) <$>
    lexicon.candidates rules options word

end Lexicon

end Orthography
