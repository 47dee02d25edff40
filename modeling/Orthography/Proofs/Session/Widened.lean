import Mathlib.Order.Lattice.Nat
import Orthography.Proofs.Session.Suggested

/-!
# A greater limit of distance

The limit says which entries are near a word and which corrections are kept.  What is near within a
limit is near within a greater one, so a word keeps its corrections, at the same distances, and is
offered for more.  So everything that a session suggests, it suggests with a greater limit too, with
the same weight and no farther away (`Session.exists_suggestDetailed_of_widened`).
-/

namespace Orthography

/-- Some choices for ranking are the same as others but for a limit that may be greater. -/
structure RankingOptions.Widened (options wider : RankingOptions) : Prop where
  sources_eq : options.sources = wider.sources
  frequencies_eq : options.frequencies = wider.frequencies
  limit_le : options.limit ≤ wider.limit

/-- What is near within a limit is near within a greater limit. -/
theorem Entry.Near.mono {entry : Entry} {word : Text} {limit greater : Nat}
    (hlimit : limit ≤ greater) (hnear : entry.Near word limit) : entry.Near word greater := by
  rcases hnear with ⟨variant, hvariant, hnear⟩ | hnear | hnear
  · exact .inl ⟨variant, hvariant, hnear.trans hlimit⟩
  · exact .inr (.inl (hnear.trans hlimit))
  · exact .inr (.inr (hnear.trans hlimit))

namespace Lexicon

variable {lexicon : Lexicon} {rules : List NormalizationRule} {options wider : RankingOptions}
  {limit greater : Nat} {token base correction : Text} {source : Source}

/-- What a source has within a limit it has within a greater limit. -/
theorem Has.mono (hlimit : limit ≤ greater)
    (hhas : lexicon.Has rules limit base correction source) :
    lexicon.Has rules greater base correction source := by
  cases source with
  | replacements => exact hhas
  | stems =>
      obtain ⟨entry, hentry, hsuggest, hword, hnear, hform⟩ := hhas
      exact ⟨entry, hentry, hsuggest, hword, hnear.mono hlimit, hform⟩

/-- A word keeps its corrections within a greater limit. -/
theorem correctionsOf_subset_of_widened (hwidened : options.Widened wider) :
    lexicon.correctionsOf rules options base ⊆ lexicon.correctionsOf rules wider base := by
  intro correction hcorrection
  obtain ⟨hother, hnear, source, hsource, hhas⟩ := hcorrection
  rw [hwidened.sources_eq] at hsource
  exact ⟨hother, hnear.trans hwidened.limit_le, source, hsource, hhas.mono hwidened.limit_le⟩

/-- What is suggested within a limit is suggested within a greater limit, with the same weight and
no farther away. -/
theorem exists_mem_suggestions_of_widened (hwidened : options.Widened wider)
    {suggestion : Suggestion}
    (hsuggestion : suggestion ∈ (lexicon.suggestions rules options token).value) :
    ∃ found ∈ (lexicon.suggestions rules wider token).value,
      found.word = suggestion.word ∧ found.weight = suggestion.weight ∧
        found.distance ≤ suggestion.distance := by
  obtain ⟨⟨hother, hdistance, -⟩, hweight⟩ := mem_suggestions_iff.mp hsuggestion
  have hwide : suggestion.distance ∈ lexicon.distancesAs rules wider token suggestion.word :=
    distancesAs_subset_of_correctionsOf (fun _ => correctionsOf_subset_of_widened hwidened)
      hdistance
  -- The nearest of the corrections so offered may be one that the smaller limit left out.
  let least := sInf (lexicon.distancesAs rules wider token suggestion.word)
  have hleast : IsLeast (lexicon.distancesAs rules wider token suggestion.word) least :=
    ⟨Nat.sInf_mem ⟨_, hwide⟩, fun _ => Nat.sInf_le⟩
  let found : Suggestion := ⟨suggestion.word, least, suggestion.weight⟩
  have hfound : found ∈ (lexicon.suggestions rules wider token).value :=
    mem_suggestions_iff.mpr ⟨⟨hother, hleast⟩, hwidened.frequencies_eq ▸ hweight⟩
  exact ⟨found, hfound, rfl, rfl, hleast.2 hwide⟩

end Lexicon

/-! ### Sessions -/

namespace Session

/-- Of two loaded sessions with the same lexicon and the same rules of normalization, which rank
with the same choices but for a limit that may be greater in the second, the second suggests all
that the first suggests, with the same weights and no farther away. -/
theorem exists_suggestDetailed_of_widened {history other : List Request} {lexicon : Lexicon}
    (hlexicon : (new.run history).lexicon = .ok lexicon)
    (hsame : (new.run other).lexicon = .ok lexicon)
    (hnormalization : (new.run history).normalization = (new.run other).normalization)
    (hwidened : (new.run history).rankingOptions.Widened (new.run other).rankingOptions)
    (token : Text) :
    ∃ near far : List Suggestion,
      (∀ limit, near.length ≤ limit →
        (new.run history).answer (.suggestDetailed token limit) = .suggestions (.ok near)) ∧
      (∀ limit, far.length ≤ limit →
        (new.run other).answer (.suggestDetailed token limit) = .suggestions (.ok far)) ∧
      ∀ suggestion ∈ near, ∃ found ∈ far, found.word = suggestion.word ∧
        found.weight = suggestion.weight ∧ found.distance ≤ suggestion.distance := by
  refine ⟨_, _,
    fun limit => answer_suggestDetailed_of_room (resultsCurrent_run resultsCurrent_new history)
      hlexicon rfl,
    fun limit => answer_suggestDetailed_of_room (resultsCurrent_run resultsCurrent_new other)
      hsame rfl, ?_⟩
  intro suggestion hsuggestion
  rw [← hnormalization]
  cases hknown : (lexicon.check (new.run history).normalization token).value with
  | true =>
      rw [hknown] at hsuggestion
      cases hsuggestion
  | false =>
      rw [hknown] at hsuggestion
      exact Lexicon.exists_mem_suggestions_of_widened hwidened hsuggestion

/-- Two sessions with the same files, the second of which corrects a capitalized word from farther
away. -/
theorem exists_suggestDetailed_of_widened_capitalized :
    let history : List Request := [.setAffix "REP l ll\n".toList,
      .setDictionary "hello\nhelp\nyellow\n".toList, .setFrequencies "help\t2\n".toList,
      .setMaxDistance 1]
    let other : List Request := [.setMaxDistance 3, .setAffix "REP l ll\n".toList,
      .setFrequencies "help\t2\n".toList, .setDictionary "hello\nhelp\nyellow\n".toList]
    ∃ lexicon, (new.run history).lexicon = .ok lexicon ∧ (new.run other).lexicon = .ok lexicon ∧
      (new.run history).normalization = (new.run other).normalization ∧
      (new.run history).rankingOptions.Widened (new.run other).rankingOptions ∧
      ∃ near far : List Suggestion,
        (∀ limit, near.length ≤ limit →
          (new.run history).answer (.suggestDetailed "Helo".toList limit) =
            .suggestions (.ok near)) ∧
        (∀ limit, far.length ≤ limit →
          (new.run other).answer (.suggestDetailed "Helo".toList limit) =
            .suggestions (.ok far)) ∧
        (∀ suggestion ∈ near, ∃ found ∈ far, found.word = suggestion.word ∧
          found.weight = suggestion.weight ∧ found.distance ≤ suggestion.distance) ∧
        near = [⟨"Help".toList, 1, ⟨0x4000000000000000⟩⟩, ⟨"Hello".toList, 1, .zero⟩] ∧
        far = near ++ [⟨"Yellow".toList, 3, .zero⟩] := by
  intro history other
  let grammar := (Grammar.read "REP l ll\n".toList).value.toOption.getD .empty
  have hread : (Grammar.read "REP l ll\n".toList).value = .ok grammar := by decide +kernel
  let lexicon := (Lexicon.build grammar
    (Dictionary.read "hello\nhelp\nyellow\n".toList).value).value
  let frequencies := (Frequencies.read "help\t2\n".toList).value
  obtain ⟨hlexicon, hnone, hoptions⟩ : (new.run history).lexicon = .ok lexicon ∧
      (new.run history).normalization = [] ∧
      (new.run history).rankingOptions = ⟨Source.usual, 1, frequencies⟩ := by
    rw [run_cons, perform_setAffix_of_ok hread]
    exact ⟨rfl, rfl, rfl⟩
  obtain ⟨hsame, hnoneOther, hoptionsOther⟩ : (new.run other).lexicon = .ok lexicon ∧
      (new.run other).normalization = [] ∧
      (new.run other).rankingOptions = ⟨Source.usual, 3, frequencies⟩ := by
    rw [run_cons, run_cons, perform_setAffix_of_ok hread]
    exact ⟨rfl, rfl, rfl⟩
  have hnormalization : (new.run history).normalization = (new.run other).normalization :=
    hnone.trans hnoneOther.symm
  have hwidened : (new.run history).rankingOptions.Widened (new.run other).rankingOptions := by
    rw [hoptions, hoptionsOther]
    exact ⟨rfl, rfl, by decide⟩
  have hunknown : (lexicon.check [] "Helo".toList).value = false := by decide +kernel
  have hnearListed : (lexicon.candidates [] ⟨Source.usual, 1, frequencies⟩
      "Helo".toList).value.list = [⟨"Hello".toList, 1, .zero⟩, ⟨"Help".toList, 1, .zero⟩] := by
    decide +kernel
  have hfarListed : (lexicon.candidates [] ⟨Source.usual, 3, frequencies⟩
      "Helo".toList).value.list = [⟨"Hello".toList, 1, .zero⟩, ⟨"Help".toList, 1, .zero⟩,
        ⟨"Yellow".toList, 3, .zero⟩] := by decide +kernel
  have hnearest : (lexicon.suggestions [] ⟨Source.usual, 1, frequencies⟩ "Helo".toList).value =
      [⟨"Help".toList, 1, ⟨0x4000000000000000⟩⟩, ⟨"Hello".toList, 1, .zero⟩] :=
    Lexicon.suggestions_eq_of_candidates hnearListed (by decide +kernel) (by decide +kernel)
  have hfarthest : (lexicon.suggestions [] ⟨Source.usual, 3, frequencies⟩ "Helo".toList).value =
      [⟨"Help".toList, 1, ⟨0x4000000000000000⟩⟩, ⟨"Hello".toList, 1, .zero⟩,
        ⟨"Yellow".toList, 3, .zero⟩] :=
    Lexicon.suggestions_eq_of_candidates hfarListed (by decide +kernel) (by decide +kernel)
  obtain ⟨near, far, hnear, hfar, hwider⟩ :=
    exists_suggestDetailed_of_widened hlexicon hsame hnormalization hwidened "Helo".toList
  have hnearAll := answer_suggestDetailed_of_room (resultsCurrent_run resultsCurrent_new history)
    hlexicon (by rw [hnone, hoptions, hunknown, hnearest]) (Nat.le_add_left 2 near.length)
  have hfarAll := answer_suggestDetailed_of_room (resultsCurrent_run resultsCurrent_new other)
    hsame (by rw [hnoneOther, hoptionsOther, hunknown, hfarthest])
    (Nat.le_add_left 3 far.length)
  rw [hnear _ (Nat.le_add_right _ _), Answer.suggestions.injEq, Except.ok.injEq] at hnearAll
  rw [hfar _ (Nat.le_add_right _ _), Answer.suggestions.injEq, Except.ok.injEq] at hfarAll
  exact ⟨lexicon, hlexicon, hsame, hnormalization, hwidened, near, far, hnear, hfar, hwider,
    hnearAll, by rw [hfarAll, hnearAll]; rfl⟩

end Session

end Orthography
