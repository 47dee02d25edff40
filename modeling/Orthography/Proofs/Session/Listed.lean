import Orthography.Proofs.Session.Suggested
import Orthography.Proofs.Suggestion.Ranked

/-!
# The list of suggestions

What a session suggests for a word is the start of one list, as long as the limit allows.  The list
has each word once and never the misspelt word, and it is in strict order.  A known word has no
suggestions.
-/

namespace Orthography

/-- Suggestions for a word as they are listed: other words, each once, in strict order. -/
structure Listed (token : Text) (found : List Suggestion) : Prop where
  nodup : (found.map (·.word)).Nodup
  not_mem : token ∉ found.map (·.word)
  ordered : found.Pairwise Suggestion.Leads

/-- The start of a list of suggestions is one. -/
theorem Listed.take {token : Text} {found : List Suggestion} (hlisted : Listed token found)
    (limit : Nat) : Listed token (found.take limit) where
  nodup := by
    rw [List.map_take]
    exact hlisted.nodup.sublist (List.take_sublist _ _)
  not_mem hword := hlisted.not_mem (by
    rw [List.map_take] at hword
    exact List.mem_of_mem_take hword)
  ordered := hlisted.ordered.sublist (List.take_sublist _ _)

/-- The suggestions of a lexicon are listed. -/
theorem Lexicon.listed_suggestions (lexicon : Lexicon) (rules : List NormalizationRule)
    (options : RankingOptions) (token : Text) :
    Listed token (lexicon.suggestions rules options token).value := by
  obtain ⟨offers, hrecords, htoken, -, -⟩ :=
    lexicon.exists_records_candidates rules options token
  have hranked := hrecords.rank options.frequencies
  refine ⟨hranked.nodup, fun hword => ?_, Candidates.pairwise_rank hrecords.nodup _⟩
  exact ((hranked.mem_words token).mp hword).1 htoken.symm

namespace Session

/-- All answers of a loaded session for a word are starts of one list, which is empty if the word is
known. -/
theorem exists_forall_suggestDetailed_eq_take {session : Session}
    (hcurrent : ResultsCurrent session) (hloaded : session.isLoaded = true) (token : Text) :
    ∃ full, Listed token full ∧
      (session.answer (.check token) = .verdict (.ok true) → full = []) ∧
      ∀ limit, session.answer (.suggestDetailed token limit) =
        .suggestions (.ok (full.take limit)) := by
  obtain ⟨lexicon, hstock⟩ := Option.isSome_iff_exists.mp hloaded
  have hlexicon := lexicon_eq_ok_iff.mpr hstock
  have hlisted := lexicon.listed_suggestions session.normalization session.rankingOptions token
  simp only [answer_check hcurrent hlexicon, answer_suggestDetailed hcurrent hlexicon]
  cases hknown : (lexicon.check session.normalization token).value with
  | true => exact ⟨[], hlisted.take 0, fun _ => rfl, fun limit => by simp⟩
  | false =>
      refine ⟨_, hlisted, ?_, fun limit => ?_⟩
      · intro hverdict
        cases hverdict
      · by_cases hnone : limit = 0 <;> simp [hnone]

/-- For any two limits a loaded session has two lists of suggestions, and the shorter is the start
of the longer.  No list is longer than its limit; it has other words than the misspelt one, each
once, in strict order; and for a known word it is empty. -/
theorem exists_suggestDetailed_take {history : List Request} {fewer more : Nat}
    (hloaded : (new.run history).isLoaded = true) (hlimits : fewer ≤ more) (token : Text) :
    ∃ shorter longer,
      (new.run history).answer (.suggestDetailed token fewer) = .suggestions (.ok shorter) ∧
      (new.run history).answer (.suggestDetailed token more) = .suggestions (.ok longer) ∧
      shorter = longer.take fewer ∧ shorter.length ≤ fewer ∧ Listed token shorter ∧
      ((new.run history).answer (.check token) = .verdict (.ok true) → shorter = []) := by
  have hcurrent : ResultsCurrent (new.run history) := resultsCurrent_run resultsCurrent_new history
  obtain ⟨full, hlisted, hknown, htake⟩ :=
    exists_forall_suggestDetailed_eq_take hcurrent hloaded token
  refine ⟨_, _, htake fewer, htake more, ?_, List.length_take_le _ _, hlisted.take fewer, ?_⟩
  · rw [List.take_take, Nat.min_eq_left hlimits]
  · intro hverdict
    rw [hknown hverdict, List.take_nil]

/-- The lists of a session that lists a word with its weight, looks among the stems alone, and was
asked before. -/
theorem exists_suggestDetailed_take_weighted :
    let history : List Request := [.setAffix [], .setDictionary "hallo\nhello\nhelp\nheld\n".toList,
      .setFrequencies "help\t2\n".toList, .setSources [.stems],
      .ask (.suggestDetailed "helo".toList 1)]
    (new.run history).isLoaded = true ∧ 1 ≤ 4 ∧
      ∃ shorter longer,
        (new.run history).answer (.suggestDetailed "helo".toList 1) =
          .suggestions (.ok shorter) ∧
        (new.run history).answer (.suggestDetailed "helo".toList 4) =
          .suggestions (.ok longer) ∧
        shorter = longer.take 1 ∧ shorter.length ≤ 1 ∧ Listed "helo".toList shorter ∧
        ((new.run history).answer (.check "helo".toList) = .verdict (.ok true) →
          shorter = []) ∧
        longer = [⟨"help".toList, 1, ⟨0x4000000000000000⟩⟩, ⟨"held".toList, 1, .zero⟩,
          ⟨"hello".toList, 1, .zero⟩, ⟨"hallo".toList, 2, .zero⟩] := by
  intro history
  let setup : List Request := [.setAffix [], .setDictionary "hallo\nhello\nhelp\nheld\n".toList,
    .setFrequencies "help\t2\n".toList, .setSources [.stems]]
  let grammar := (Grammar.read []).value.toOption.getD .empty
  let lexicon := (Lexicon.build grammar
    (Dictionary.read "hallo\nhello\nhelp\nheld\n".toList).value).value
  let frequencies := (Frequencies.read "help\t2\n".toList).value
  have hread : (Grammar.read []).value = .ok grammar := by decide +kernel
  have hloaded : (new.run history).isLoaded = true := by
    rw [isLoaded_run_new]
    decide +kernel
  have hlimits : 1 ≤ 4 := by decide
  obtain ⟨hlexicon, hrules, hoptions⟩ : (new.run setup).inputs.lexicon = .ok lexicon ∧
      (new.run setup).inputs.normalization = [] ∧
      (new.run setup).inputs.rankingOptions = ⟨[.stems], 2, frequencies⟩ := by
    rw [run_cons, perform_setAffix_of_ok hread]
    exact ⟨rfl, rfl, rfl⟩
  have hasked : (new.run history).inputs = (new.run setup).inputs :=
    (ask_fst (resultsCurrent_run resultsCurrent_new setup) _).1
  rw [← hasked] at hlexicon hrules hoptions
  have hunknown : (lexicon.check [] "helo".toList).value = false := by decide +kernel
  have hcandidates : (lexicon.candidates [] ⟨[.stems], 2, frequencies⟩ "helo".toList).value.list =
      [⟨"hallo".toList, 2, .zero⟩, ⟨"hello".toList, 1, .zero⟩, ⟨"help".toList, 1, .zero⟩,
        ⟨"held".toList, 1, .zero⟩] := by decide +kernel
  have hfound : (lexicon.suggestions [] ⟨[.stems], 2, frequencies⟩ "helo".toList).value =
      [⟨"help".toList, 1, ⟨0x4000000000000000⟩⟩, ⟨"held".toList, 1, .zero⟩,
        ⟨"hello".toList, 1, .zero⟩, ⟨"hallo".toList, 2, .zero⟩] :=
    Lexicon.suggestions_eq_of_candidates hcandidates (by decide +kernel) (by decide +kernel)
  obtain ⟨shorter, longer, hshorter, hlonger, htake, hlength, hlisted, hknown⟩ :=
    exists_suggestDetailed_take hloaded hlimits "helo".toList
  refine ⟨hloaded, hlimits, shorter, longer, hshorter, hlonger, htake, hlength, hlisted, hknown, ?_⟩
  rw [answer_suggestDetailed (resultsCurrent_run resultsCurrent_new _) hlexicon,
    ← normalization_inputs, ← rankingOptions_inputs, hrules, hoptions, hunknown, hfound] at hlonger
  cases hlonger
  rfl

end Session

end Orthography
