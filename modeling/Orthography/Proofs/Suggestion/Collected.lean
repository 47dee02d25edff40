import Mathlib.Order.Basic
import Orthography.Suggestion.Ranking

/-!
# The list of candidates

Candidates are added one by one, and one that comes again is looked for by its place in the order of
arrival.  Adding keeps the list in that order and within the limit (`Tidy.addAt`).  Ranking changes
the order, but neither adds nor loses a word.
-/

namespace Orthography

namespace Candidates

/-- The words of the candidates. -/
def words (candidates : Candidates) : List Text := candidates.list.map (·.word)

/-- The list keeps to the order of arrival, and holds nothing beyond the limit. -/
structure Tidy (candidates : Candidates) : Prop where
  words_eq : candidates.words = candidates.order
  near : ∀ suggestion ∈ candidates.list, suggestion.distance ≤ candidates.limit

/-- An empty list is in order. -/
theorem tidy_start (word : Text) (limit : Nat) : (start word limit).Tidy :=
  ⟨rfl, fun _ hsuggestion => by cases hsuggestion⟩

/-- Lowering a distance changes no word. -/
theorem map_word_lowerAt (list : List Suggestion) (place distance : Nat) :
    (lowerAt list place distance).map (·.word) = list.map (·.word) := by
  unfold lowerAt
  induction list generalizing place with
  | nil => simp
  | cons suggestion list ih =>
      cases place with
      | zero => rfl
      | succ place => simp [ih]

/-- Lowering a distance raises none. -/
theorem forall_mem_lowerAt {list : List Suggestion} {limit : Nat} (place distance : Nat)
    (hlist : ∀ suggestion ∈ list, suggestion.distance ≤ limit) :
    ∀ suggestion ∈ lowerAt list place distance, suggestion.distance ≤ limit := by
  unfold lowerAt
  induction list generalizing place with
  | nil => simp
  | cons first list ih =>
      intro suggestion hsuggestion
      have hfirst := hlist first List.mem_cons_self
      have hrest := fun other hother => hlist other (List.mem_cons_of_mem _ hother)
      cases place with
      | zero =>
          rcases List.mem_cons.mp hsuggestion with rfl | hsuggestion
          · exact Nat.le_trans (Nat.min_le_left _ _) hfirst
          · exact hrest suggestion hsuggestion
      | succ place =>
          rcases List.mem_cons.mp hsuggestion with rfl | hsuggestion
          · exact hfirst
          · exact ih place hrest suggestion hsuggestion

variable {candidates : Candidates}

/-- Adding a correction leaves the word to be corrected and the limit. -/
theorem addAt_fixed (candidates : Candidates) (correction : Text) (distance : Nat) :
    (candidates.addAt correction distance).1.word = candidates.word ∧
      (candidates.addAt correction distance).1.limit = candidates.limit := by
  unfold addAt
  split
  · exact ⟨rfl, rfl⟩
  · split <;> exact ⟨rfl, rfl⟩

/-- Adding a correction keeps the list in order. -/
theorem Tidy.addAt (htidy : candidates.Tidy) (correction : Text) (distance : Nat) :
    (candidates.addAt correction distance).1.Tidy := by
  unfold Candidates.addAt
  split
  · exact htidy
  · rename_i hkept
    split
    · rename_i place hplace
      exact ⟨(map_word_lowerAt _ _ _).trans htidy.words_eq,
        forall_mem_lowerAt place distance htidy.near⟩
    · refine ⟨?_, fun suggestion hsuggestion => ?_⟩
      · rw [words, List.map_append, ← words, htidy.words_eq]
        rfl
      · rcases List.mem_append.mp hsuggestion with hold | hnew
        · exact htidy.near suggestion hold
        · rw [List.mem_singleton.mp hnew]
          simp only [Bool.or_eq_true, decide_eq_true_eq, not_or, Nat.not_lt] at hkept
          exact hkept.1

/-- Ranking orders the words and changes none of them. -/
theorem words_rank_perm (candidates : Candidates) (frequencies : Frequencies) :
    (candidates.rank frequencies).words.Perm candidates.words := by
  have hperm := List.mergeSort_perm (candidates.list.map fun suggestion =>
    { suggestion with weight := frequencies.foldedWeight suggestion.word }) ranksBefore
  have hwords := hperm.map (·.word)
  rwa [List.map_map] at hwords

end Candidates

end Orthography
