import Mathlib
import Orthography.Proofs.Suggestion.Recorded

/-!
# Runs of offers and rankings

Candidates can be added and ranked in any order.  Their words are always those offered within the
limit, each once.  Ranking moves suggestions but not their places of arrival, so a correction that
comes again afterwards may lower the distance of another in place of its own.  The distances stay
right through a run exactly if every correction that comes again with a smaller distance is found.
-/

namespace Orthography

namespace Candidates

/-- What can be done with candidates. -/
inductive Step where
  | add (correction : Text)
  | addAt (correction : Text) (distance : Nat)
  | rank (frequencies : Frequencies)

/-- What a step offers as a correction of a word, and at which distance. -/
def Step.offers (word : Text) : Step → List (Text × Nat)
  | add correction => [(correction, Text.distance correction word)]
  | addAt correction distance => [(correction, distance)]
  | rank _ => []

/-- All that some steps offer, in order. -/
def offersOf (word : Text) (steps : List Step) : List (Text × Nat) :=
  steps.flatMap (Step.offers word)

/-- The candidates after a step. -/
def perform (candidates : Candidates) : Step → Candidates
  | .add correction => (candidates.add correction).1
  | .addAt correction distance => (candidates.addAt correction distance).1
  | .rank frequencies => candidates.rank frequencies

/-- The candidates after some steps, the first of them first. -/
def run (candidates : Candidates) (steps : List Step) : Candidates := steps.foldl perform candidates

/-- A step finds the corrections that come again with it. -/
def FindsAll (candidates : Candidates) (step : Step) : Prop :=
  ∀ offer ∈ step.offers candidates.word, candidates.Finds offer.1 offer.2

variable {candidates : Candidates} {offers : List (Text × Nat)}

/-! ### Steps -/

/-- A step leaves the word to be corrected and the limit. -/
theorem perform_fixed (candidates : Candidates) (step : Step) :
    (candidates.perform step).word = candidates.word ∧
      (candidates.perform step).limit = candidates.limit := by
  cases step with
  | add correction =>
      rw [perform, add_eq_addAt]
      exact addAt_fixed _ _ _
  | addAt correction distance => exact addAt_fixed _ _ _
  | rank frequencies => exact ⟨rfl, rfl⟩

/-- After a step the places of arrival are still those of the words in the list. -/
theorem perm_perform (hperm : candidates.words.Perm candidates.order) (step : Step) :
    (candidates.perform step).words.Perm (candidates.perform step).order := by
  cases step with
  | add correction =>
      rw [perform, add_eq_addAt]
      exact perm_addAt hperm _ _
  | addAt correction distance => exact perm_addAt hperm _ _
  | rank frequencies => exact (words_rank_perm candidates frequencies).trans hperm

/-- After a step the candidates still hold just the words offered, each once. -/
theorem Lists.perform (hperm : candidates.words.Perm candidates.order)
    (hlists : candidates.Lists offers) (step : Step) :
    (candidates.perform step).Lists (offers ++ step.offers candidates.word) := by
  cases step with
  | add correction =>
      rw [Candidates.perform, add_eq_addAt]
      exact hlists.addAt hperm _ _
  | addAt correction distance => exact hlists.addAt hperm _ _
  | rank frequencies => exact (List.append_nil offers).symm ▸ hlists.rank frequencies

/-- After a step the distances are right exactly if the corrections that come again are found. -/
theorem Records.perform_iff (hperm : candidates.words.Perm candidates.order)
    (hrecords : candidates.Records offers) (step : Step) :
    (candidates.perform step).Records (offers ++ step.offers candidates.word) ↔
      candidates.FindsAll step := by
  cases step with
  | add correction =>
      rw [FindsAll, Step.offers, List.forall_mem_singleton, ← hrecords.addAt_iff hperm,
        perform, add_eq_addAt]
  | addAt correction distance =>
      rw [FindsAll, Step.offers, List.forall_mem_singleton, ← hrecords.addAt_iff hperm, perform]
  | rank frequencies =>
      refine iff_of_true ((List.append_nil offers).symm ▸ hrecords.rank frequencies) ?_
      intro offer hoffer
      cases hoffer

/-! ### Runs -/

/-- The candidates after one more step. -/
theorem run_concat (candidates : Candidates) (steps : List Step) (step : Step) :
    candidates.run (steps ++ [step]) = (candidates.run steps).perform step := by
  rw [run, List.foldl_append]
  rfl

/-- What one more step offers comes last. -/
theorem offersOf_concat (word : Text) (steps : List Step) (step : Step) :
    offersOf word (steps ++ [step]) = offersOf word steps ++ step.offers word := by
  simp [offersOf]

/-- After any run the candidates hold just the words offered within the limit, each once. -/
theorem lists_run (word : Text) (limit : Nat) (steps : List Step) :
    ((start word limit).run steps).word = word ∧
      ((start word limit).run steps).words.Perm ((start word limit).run steps).order ∧
      ((start word limit).run steps).Lists (offersOf word steps) := by
  induction steps using List.reverseRecOn with
  | nil => exact ⟨rfl, .refl _, (records_start word limit).toLists⟩
  | append_singleton steps step ih =>
      obtain ⟨hword, hperm, hlists⟩ := ih
      have hafter := hlists.perform hperm step
      rw [hword] at hafter
      rw [run_concat, offersOf_concat]
      exact ⟨(perform_fixed _ step).1.trans hword, perm_perform hperm step, hafter⟩

/-- Whatever is added and ranked, after each step the candidates hold just the words offered within
the limit, but for the misspelt one, each once.  Each of them is held at its smallest distance after
every step exactly if every step finds the corrections that come again with it. -/
theorem forall_records_run_iff (word : Text) (limit : Nat) (steps : List Step) :
    (∀ done, done <+: steps → ((start word limit).run done).Lists (offersOf word done)) ∧
      ((∀ done, done <+: steps → ((start word limit).run done).Records (offersOf word done)) ↔
        ∀ done step, done ++ [step] <+: steps → ((start word limit).run done).FindsAll step) := by
  refine ⟨fun done _ => (lists_run word limit done).2.2, ?_, ?_⟩
  · intro hrecords done step hdone
    obtain ⟨hword, hperm, -⟩ := lists_run word limit done
    have hafter := hrecords _ hdone
    rw [run_concat, offersOf_concat] at hafter
    refine ((hrecords done ((List.prefix_append _ _).trans hdone)).perform_iff hperm step).mp ?_
    rwa [hword]
  · intro hfinds done hdone
    induction done using List.reverseRecOn with
    | nil => exact records_start word limit
    | append_singleton done step ih =>
        obtain ⟨hword, hperm, -⟩ := lists_run word limit done
        have hrecords := ih ((List.prefix_append _ _).trans hdone)
        have hafter := (hrecords.perform_iff hperm step).mpr (hfinds done step hdone)
        rw [hword] at hafter
        rwa [run_concat, offersOf_concat]

/-- After ranking, a correction that comes again lowers another one and keeps its own distance. -/
theorem not_records_run_of_rank :
    let steps : List Step := [.addAt "hello".toList 2, .addAt "help".toList 1, .rank .empty,
      .addAt "hello".toList 1]
    ((start "helo".toList 2).run steps).list =
        [⟨"help".toList, 1, .zero⟩, ⟨"hello".toList, 2, .zero⟩] ∧
      ¬ ((start "helo".toList 2).run steps).Records (offersOf "helo".toList steps) := by
  intro steps
  have hlist : ((start "helo".toList 2).run steps).list =
      [⟨"help".toList, 1, .zero⟩, ⟨"hello".toList, 2, .zero⟩] := by cbv
  refine ⟨hlist, fun hrecords => ?_⟩
  have hheld : (⟨"hello".toList, 2, .zero⟩ : Suggestion) ∈
      ((start "helo".toList 2).run steps).list := by
    rw [hlist]
    exact List.mem_cons_of_mem _ List.mem_cons_self
  have hsmaller : 1 ∈ distancesOf (offersOf "helo".toList steps) 2 "hello".toList :=
    ⟨by decide, by decide⟩
  exact absurd ((hrecords.isLeast _ hheld).2 hsmaller) (by decide)

end Candidates

end Orthography
