import Orthography.Proofs.Suggestion.Corrections
import Orthography.Proofs.Text.Recasing

/-!
# The weight of capitalized corrections

A correction that was capitalized is mostly not listed among the frequencies, and is then weighed by
its lower-case form.  That is the weight of the word it was made from where this word lowers back
(`Frequencies.forall_weight_upperFirst_iff`).  A listed word with a capital further on, or with a
first letter that shares its capital with another letter, does not, and its correction ranks as if
it were not listed.
-/

namespace Orthography.Frequencies

variable {frequencies : Frequencies} {word : Text}

/-- A word that is not listed has no weight. -/
theorem weight_of_get?_eq_none (hnone : frequencies.weights.get? word = none) :
    frequencies.weight word = .zero := by
  rw [weight, hnone, Option.getD_none]

/-- A word that is not listed is weighed by its lower-case form. -/
theorem foldedWeight_of_get?_eq_none (hnone : frequencies.weights.get? word = none) :
    frequencies.foldedWeight word = frequencies.weight word.lower := by
  rw [foldedWeight, hnone]

/-- The list of one word. -/
theorem get?_insert_empty (word : Text) (weight : Weight) (other : Text) :
    (empty.insert word weight).weights.get? other = if other = word then some weight else none := by
  simp [insert, empty]

/-- A word that does not lower back is weighed in vain: a list of that word alone, with any weight,
has nothing for its capitalized form. -/
theorem exists_foldedWeight_upperFirst_ne (hupper : word.upperFirst ≠ word)
    (hlower : word.upperFirst.lower ≠ word) :
    ∃ frequencies : Frequencies, (frequencies.weights.get? word).isSome = true ∧
      frequencies.weights.get? word.upperFirst = none ∧
      frequencies.foldedWeight word.upperFirst ≠ frequencies.weight word := by
  let frequencies := empty.insert word ⟨1⟩
  have hlisted : frequencies.weights.get? word = some ⟨1⟩ := by
    rw [get?_insert_empty, if_pos rfl]
  have hcapital : frequencies.weights.get? word.upperFirst = none := by
    rw [get?_insert_empty, if_neg hupper]
  have hlost : frequencies.weights.get? word.upperFirst.lower = none := by
    rw [get?_insert_empty, if_neg hlower]
  refine ⟨frequencies, by rw [hlisted]; rfl, hcapital, ?_⟩
  rw [foldedWeight_of_get?_eq_none hcapital, weight_of_get?_eq_none hlost, weight, hlisted]
  decide

/-- The capitalized form of a word, if it is not listed itself, has the weight of the word in every
list that has the word, and with that weight it is ranked, exactly if capitalizing does not change
the word or the word lowers back. -/
theorem forall_weight_upperFirst_iff (word : Text) :
    (∀ frequencies : Frequencies, (frequencies.weights.get? word).isSome = true →
      frequencies.weights.get? word.upperFirst = none →
        frequencies.foldedWeight word.upperFirst = frequencies.weight word ∧
        ∀ (lexicon : Lexicon) (rules : List NormalizationRule) (sources : List Source)
          (limit : Nat) (token : Text),
          ∀ suggestion ∈ (lexicon.suggestions rules ⟨sources, limit, frequencies⟩ token).value,
            suggestion.word = word.upperFirst → suggestion.weight = frequencies.weight word) ↔
      word.upperFirst = word ∨ word.LowersBack := by
  constructor
  · intro hall
    by_contra hother
    obtain ⟨hupper, hback⟩ := not_or.mp hother
    have hword : word ≠ [] := by
      rintro rfl
      exact hupper rfl
    have hlower : word.upperFirst.lower ≠ word := fun hlower =>
      (Text.lower_upperFirst_eq_iff.mp hlower).elim hword hback
    obtain ⟨frequencies, hlisted, hcapital, hweight⟩ :=
      exists_foldedWeight_upperFirst_ne hupper hlower
    exact hweight (hall frequencies hlisted hcapital).1
  · intro hback frequencies hlisted hcapital
    have hlower : word.upperFirst.lower = word := by
      rcases hback with hupper | hback
      · rw [hupper] at hcapital
        rw [hcapital] at hlisted
        cases hlisted
      · exact Text.lower_upperFirst_eq_iff.mpr (.inr hback)
    have hweight : frequencies.foldedWeight word.upperFirst = frequencies.weight word := by
      rw [foldedWeight_of_get?_eq_none hcapital, hlower]
    refine ⟨hweight, fun lexicon rules sources limit token suggestion hsuggestion hword => ?_⟩
    rw [Lexicon.weight_of_mem_suggestions hsuggestion, hword, hweight]

/-- A listed word with a capital further on is suggested capitalized without its weight. -/
theorem weight_upperFirst_of_inner_capital :
    ∃ (frequencies : Frequencies) (lexicon : Lexicon) (suggestion : Suggestion),
      (Frequencies.read "iPhone\t5\n".toList).value = frequencies ∧
        (frequencies.weights.get? "iPhone".toList).isSome = true ∧
        frequencies.weights.get? (Text.upperFirst "iPhone".toList) = none ∧
        frequencies.foldedWeight (Text.upperFirst "iPhone".toList) ≠
          frequencies.weight "iPhone".toList ∧
        (lexicon.suggestions [] ⟨Source.usual, 2, frequencies⟩ "Iphone".toList).value =
          [suggestion] ∧
        suggestion.word = Text.upperFirst "iPhone".toList ∧ suggestion.weight = .zero := by
  let frequencies := (Frequencies.read "iPhone\t5\n".toList).value
  let grammar := (Grammar.read []).value.toOption.getD .empty
  let lexicon := (Lexicon.build grammar (Dictionary.read "iPhone\n".toList).value).value
  have hcandidates :
      (lexicon.candidates [] ⟨Source.usual, 2, frequencies⟩ "Iphone".toList).value.list =
        [⟨"IPhone".toList, 1, .zero⟩] := by decide +kernel
  exact ⟨frequencies, lexicon, ⟨"IPhone".toList, 1, frequencies.foldedWeight "IPhone".toList⟩, rfl,
    by decide +kernel, by decide +kernel, by decide +kernel,
    Lexicon.suggestions_eq_of_candidates hcandidates (.refl _) (List.pairwise_singleton _ _),
    by decide +kernel, by decide +kernel⟩

end Orthography.Frequencies
