import Orthography.Proofs.Session.Suggested

/-!
# The distances of suggestions

A suggestion is given with the distance that a correction has from the word it was looked for from.
For a capitalized word that need not be the distance of the suggestion from the word: the correction
is capitalized only afterwards, and it may have been looked for from the lowered form.  The distance
given is never beyond the limit.  It is the true one exactly if capitalizing moves no correction
away from the word, and every word that is suggested has a correction as near as itself.
-/

namespace Orthography

namespace Text

/-- A correction is offered with the first letter of the word in place of its own. -/
def KeepsInitial (token base correction : Text) : Prop :=
  ∃ initial first own tail rest, token = initial :: tail ∧ base = first :: tail ∧
    correction = own :: rest ∧ token.offeredAs correction = initial :: rest

/-- With its first letter in place, a correction is offered no farther from the word than it is from
its base. -/
theorem KeepsInitial.distance_le {token base correction : Text}
    (hkeeps : KeepsInitial token base correction) :
    distance (token.offeredAs correction) token ≤ distance correction base := by
  obtain ⟨initial, first, own, tail, rest, rfl, rfl, rfl, hoffered⟩ := hkeeps
  rw [hoffered, distance_cons_cons_self]
  exact distance_le_distance_cons_cons rest tail own first

end Text

namespace Lexicon

variable {lexicon : Lexicon} {rules : List NormalizationRule} {options : RankingOptions}
  {token correction : Text}

/-- Corrections are as far from their bases as what is offered for them is from the word: what is
offered without the first letter of the word is no farther, and for each word offered some
correction is as near. -/
structure Measured (lexicon : Lexicon) (rules : List NormalizationRule) (options : RankingOptions)
    (token : Text) : Prop where
  not_nearer : ∀ base ∈ token.bases, ∀ correction ∈ lexicon.correctionsOf rules options base,
    token.offeredAs correction ≠ token → ¬ Text.KeepsInitial token base correction →
      Text.distance (token.offeredAs correction) token ≤ Text.distance correction base
  as_near : ∀ base ∈ token.bases, ∀ correction ∈ lexicon.correctionsOf rules options base,
    token.offeredAs correction ≠ token →
      ∃ other ∈ token.bases, ∃ nearer ∈ lexicon.correctionsOf rules options other,
        token.offeredAs nearer = token.offeredAs correction ∧
          Text.distance nearer other ≤ Text.distance (token.offeredAs correction) token

/-- The corrections of a word that is not capitalized are measured: they are offered as they are. -/
theorem measured_of_caseShape_ne (hshape : token.caseShape ≠ .firstUpper) :
    lexicon.Measured rules options token := by
  have hplain : ∀ lowered, token.caseShape = .firstUpper → token.lowerFirst? = some lowered →
      False := fun _ hfirst _ => hshape hfirst
  obtain ⟨hbases, hoffered⟩ := Text.bases_of_not_firstUpper hplain
  constructor
  · rintro base hbase correction - - -
    rw [hbases, List.mem_singleton] at hbase
    rw [hoffered, hbase]
  · rintro base hbase correction hcorrection -
    refine ⟨base, hbase, correction, hcorrection, rfl, ?_⟩
    rw [hbases, List.mem_singleton] at hbase
    rw [hoffered, hbase]

/-- No suggestion is given with a distance beyond the limit. -/
theorem distance_le_of_mem_suggestions {suggestion : Suggestion}
    (hsuggestion : suggestion ∈ (lexicon.suggestions rules options token).value) :
    suggestion.distance ≤ options.limit := by
  obtain ⟨-, hleast⟩ := ((lexicon.suggestions_spec rules options token).2 _ _).mp
    ⟨suggestion, hsuggestion, rfl, rfl⟩
  obtain ⟨base, -, correction, hcorrection, -, hdistance⟩ := hleast.1
  rw [hdistance]
  exact hcorrection.2.1

/-- What is offered for measured corrections is no farther from the word than they are from their
bases. -/
theorem Measured.distance_le (hmeasured : lexicon.Measured rules options token) {base : Text}
    (hbase : base ∈ token.bases)
    (hcorrection : correction ∈ lexicon.correctionsOf rules options base)
    (hother : token.offeredAs correction ≠ token) :
    Text.distance (token.offeredAs correction) token ≤ Text.distance correction base := by
  by_cases hkeeps : Text.KeepsInitial token base correction
  · exact hkeeps.distance_le
  · exact hmeasured.not_nearer base hbase correction hcorrection hother hkeeps

/-- Corrections are measured exactly if each word offered is at the least distance at which it is
offered. -/
theorem measured_iff_isLeast :
    lexicon.Measured rules options token ↔
      ∀ base ∈ token.bases, ∀ correction ∈ lexicon.correctionsOf rules options base,
        token.offeredAs correction ≠ token →
          IsLeast (lexicon.distancesAs rules options token (token.offeredAs correction))
            (Text.distance (token.offeredAs correction) token) := by
  constructor
  · intro hmeasured base hbase correction hcorrection hother
    have hlower : ∀ distance ∈
        lexicon.distancesAs rules options token (token.offeredAs correction),
        Text.distance (token.offeredAs correction) token ≤ distance := by
      rintro _ ⟨source, hsource, found, hfound, hsame, rfl⟩
      rw [← hsame] at hother ⊢
      exact hmeasured.distance_le hsource hfound hother
    obtain ⟨source, hsource, nearer, hnearer, hsame, hnear⟩ :=
      hmeasured.as_near base hbase correction hcorrection hother
    have hoffered : Text.distance nearer source ∈
        lexicon.distancesAs rules options token (token.offeredAs correction) :=
      ⟨source, hsource, nearer, hnearer, hsame, rfl⟩
    refine ⟨?_, hlower⟩
    rwa [Nat.le_antisymm (hlower _ hoffered) hnear]
  · intro hleast
    constructor
    · intro base hbase correction hcorrection hother _
      exact (hleast base hbase correction hcorrection hother).2
        ⟨base, hbase, correction, hcorrection, rfl, rfl⟩
    · intro base hbase correction hcorrection hother
      obtain ⟨source, hsource, nearer, hnearer, hsame, hdistance⟩ :=
        (hleast base hbase correction hcorrection hother).1
      exact ⟨source, hsource, nearer, hnearer, hsame, hdistance.ge⟩

/-- The distances given are those of the suggestions exactly if the corrections are measured. -/
theorem forall_suggestions_distance_eq_iff :
    (∀ suggestion ∈ (lexicon.suggestions rules options token).value,
        suggestion.distance = Text.distance suggestion.word token) ↔
      lexicon.Measured rules options token := by
  obtain ⟨-, hspec⟩ := lexicon.suggestions_spec rules options token
  rw [measured_iff_isLeast]
  constructor
  · intro htrue base hbase correction hcorrection hother
    have hoffered : Text.distance correction base ∈
        lexicon.distancesAs rules options token (token.offeredAs correction) :=
      ⟨base, hbase, correction, hcorrection, rfl, rfl⟩
    obtain ⟨distance, hleast⟩ := BddBelow.exists_isLeast_of_nonempty (OrderBot.bddBelow _)
      ⟨_, hoffered⟩
    obtain ⟨suggestion, hsuggestion, hword, hdistance⟩ := (hspec _ _).mpr ⟨hother, hleast⟩
    rwa [← hword, ← htrue suggestion hsuggestion, hword, hdistance]
  · intro hall suggestion hsuggestion
    obtain ⟨hother, hleast⟩ := (hspec _ _).mp ⟨suggestion, hsuggestion, rfl, rfl⟩
    obtain ⟨base, hbase, correction, hcorrection, hword, -⟩ := hleast.1
    rw [← hword] at hother hleast ⊢
    exact hleast.unique (hall base hbase correction hcorrection hother)

end Lexicon

namespace Session

variable {lexicon : Lexicon}

/-- However many suggestions a loaded session is asked for, none is given with a distance beyond the
greatest.  Each is given with its own distance from the word, and is no farther than that, exactly
if the word is known or its corrections are measured. -/
theorem forall_suggestDetailed_distance_eq_iff {history : List Request} {token : Text}
    (hlexicon : (new.run history).lexicon = .ok lexicon) :
    (∀ limit found,
        (new.run history).answer (.suggestDetailed token limit) = .suggestions (.ok found) →
          ∀ suggestion ∈ found, suggestion.distance ≤ (new.run history).options.maxDistance) ∧
      ((∀ limit found,
          (new.run history).answer (.suggestDetailed token limit) = .suggestions (.ok found) →
            ∀ suggestion ∈ found,
              suggestion.distance = Text.distance suggestion.word token ∧
                suggestion.distance ≤ (new.run history).options.maxDistance) ↔
        (lexicon.check (new.run history).normalization token).value = true ∨
          lexicon.Measured (new.run history).normalization (new.run history).rankingOptions
            token) := by
  have hcurrent : ResultsCurrent (new.run history) := resultsCurrent_run resultsCurrent_new history
  rw [forall_mem_answer_suggestDetailed_iff hcurrent hlexicon,
    forall_mem_answer_suggestDetailed_iff hcurrent hlexicon,
    ← Lexicon.forall_suggestions_distance_eq_iff]
  refine ⟨.inr fun suggestion => Lexicon.distance_le_of_mem_suggestions, or_congr_right ?_⟩
  exact forall₂_congr fun suggestion hsuggestion =>
    and_iff_left (Lexicon.distance_le_of_mem_suggestions hsuggestion)

/-- The suggestions for a word without capitals are given with their own distances. -/
theorem forall_suggestDetailed_distance_eq_iff_lower :
    (new.run [.setAffix [], .setDictionary "hello\nhelp\n".toList]).isLoaded = true ∧
      ∀ limit found,
        (new.run [.setAffix [], .setDictionary "hello\nhelp\n".toList]).answer
            (.suggestDetailed "helo".toList limit) = .suggestions (.ok found) →
          ∀ suggestion ∈ found,
            suggestion.distance = Text.distance suggestion.word "helo".toList ∧
              suggestion.distance ≤ (new.run [.setAffix [],
                .setDictionary "hello\nhelp\n".toList]).options.maxDistance := by
  let grammar := (Grammar.read []).value.toOption.getD .empty
  have hread : (Grammar.read []).value = .ok grammar := by decide +kernel
  obtain ⟨hlexicon, -, -⟩ := run_new_pair hread "hello\nhelp\n".toList
  refine ⟨by decide +kernel, (forall_suggestDetailed_distance_eq_iff hlexicon).2.mpr (.inr ?_)⟩
  exact Lexicon.measured_of_caseShape_ne (by decide +kernel)

/-- Capitalizing takes from a correction a letter that it shares with the word.  It is suggested
with the distance that it had before, and is beyond the limit. -/
theorem suggestDetailed_beyond_maxDistance :
    ∃ suggestion,
      (new.run [.setAffix [], .setDictionary "at\n".toList]).answer
        (.suggestDetailed "Ooat".toList 5) = .suggestions (.ok [suggestion]) ∧
      suggestion.distance = 2 ∧ Text.distance suggestion.word "Ooat".toList = 3 ∧
      (new.run [.setAffix [], .setDictionary "at\n".toList]).options.maxDistance = 2 := by
  let grammar := (Grammar.read []).value.toOption.getD .empty
  let lexicon := (Lexicon.build grammar (Dictionary.read "at\n".toList).value).value
  have hread : (Grammar.read []).value = .ok grammar := by decide +kernel
  obtain ⟨hlexicon, hrules, hoptions⟩ := run_new_pair hread "at\n".toList
  have hunknown : (lexicon.check [] "Ooat".toList).value = false := by decide +kernel
  have hcandidates : (lexicon.candidates [] new.rankingOptions "Ooat".toList).value.list =
      [⟨"At".toList, 2, .zero⟩] := by decide +kernel
  have hsuggestions : (lexicon.suggestions [] new.rankingOptions "Ooat".toList).value =
      [⟨"At".toList, 2, new.frequencies.foldedWeight "At".toList⟩] :=
    Lexicon.suggestions_eq_of_candidates hcandidates (.refl _) (List.pairwise_singleton _ _)
  refine ⟨⟨"At".toList, 2, new.frequencies.foldedWeight "At".toList⟩, ?_, rfl, by decide +kernel,
    by decide +kernel⟩
  rw [answer_suggestDetailed (resultsCurrent_run resultsCurrent_new _) hlexicon, hrules, hoptions,
    hunknown, hsuggestions]
  rfl

end Session

end Orthography
