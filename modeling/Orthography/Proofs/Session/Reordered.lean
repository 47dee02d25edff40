import Orthography.Proofs.Growth
import Orthography.Proofs.Session.Listed

/-!
# The order of entries and sources

With more entries and more sources a word keeps its corrections.  So what is suggested, and at which
distance, depends only on the set of entries and the set of sources, and as suggestions are listed
in strict order, there is one list of them.  Sessions that differ in the order of their entries and
sources, or in how often they have one, suggest the same
(`Session.exists_suggestDetailed_eq_of_reordered`).
-/

namespace Orthography

/-! ### Lists with the same suggestions -/

/-- Of two suggestions at most one stands before the other. -/
theorem Suggestion.Leads.asymm {a b : Suggestion} (hleads : a.Leads b) : ¬ b.Leads a := by
  rintro (hback | ⟨hnear, hback⟩)
  · rcases hleads with hnearer | ⟨hnear, -⟩
    · exact Nat.lt_asymm hnearer hback
    · exact hback.ne' hnear
  · obtain ⟨-, hleads⟩ := hleads.resolve_left hnear.not_gt
    rcases hleads with hheavier | ⟨hheavy, hword⟩
    · rcases hback with hback | ⟨hheavy, -⟩
      · exact hheavier.asymm hback
      · exact hheavier.ne hheavy
    · rcases hback with hback | ⟨-, hback⟩
      · exact hback.ne hheavy
      · rw [Text.before_asymm hword] at hback
        cases hback

/-- There is one list of some suggestions. -/
theorem Listed.eq_of_mem_iff {token : Text} {a b : List Suggestion} (ha : Listed token a)
    (hb : Listed token b) (hmem : ∀ suggestion, suggestion ∈ a ↔ suggestion ∈ b) : a = b := by
  have hperm : a.Perm b :=
    (List.perm_ext_iff_of_nodup (ha.nodup.of_map _) (hb.nodup.of_map _)).mpr hmem
  exact List.Perm.eq_of_pairwise (fun _ _ _ _ hleads hback => absurd hback hleads.asymm)
    ha.ordered hb.ordered hperm

/-- Two choices for ranking have the same limit, the same weights and the same set of sources, in
any order and with any repetitions. -/
structure RankingOptions.Reordered (options others : RankingOptions) : Prop where
  limit_eq : options.limit = others.limit
  frequencies_eq : options.frequencies = others.frequencies
  mem_sources : ∀ source, source ∈ options.sources ↔ source ∈ others.sources

namespace Lexicon

/-! ### Corrections among more entries -/

namespace Within

variable {fewer more : Lexicon} {rules : List NormalizationRule} {affix token word : Text}
  {limit : Nat} {base correction : Text} {source : Source} {options wider : RankingOptions}

/-- What a source has for a word it has among more entries. -/
theorem has (hwithin : fewer.Within more) (hread : (Grammar.read affix).value = .ok more.grammar)
    (hrules : ∀ rule ∈ more.grammar.compoundRules, ∃ parts, rule.IsMadeOf parts)
    (hhas : fewer.Has rules limit base correction source) :
    more.Has rules limit base correction source := by
  cases source with
  | replacements =>
      obtain ⟨hvariant, hpieces⟩ := hhas
      refine ⟨hwithin.grammar_eq ▸ hvariant, fun piece hpiece => ?_⟩
      obtain ⟨hsome, hknown⟩ := hpieces piece hpiece
      exact ⟨hsome, hwithin.check hread hrules hknown⟩
  | stems =>
      obtain ⟨entry, hentry, hsuggest, hword, hnear, hform⟩ := hhas
      rw [hwithin.marks_eq] at hsuggest hword
      rw [hwithin.expand_eq] at hform
      exact ⟨entry, hwithin.entries hentry, hsuggest, hword, hnear, hform⟩

/-- A word keeps its corrections among more entries and with more sources. -/
theorem correctionsOf_subset (hwithin : fewer.Within more)
    (hread : (Grammar.read affix).value = .ok more.grammar)
    (hrules : ∀ rule ∈ more.grammar.compoundRules, ∃ parts, rule.IsMadeOf parts)
    (hlimit : options.limit = wider.limit) (hsources : options.sources ⊆ wider.sources) :
    fewer.correctionsOf rules options base ⊆ more.correctionsOf rules wider base := by
  rintro correction ⟨hother, hnear, source, hsource, hhas⟩
  rw [hlimit] at hnear hhas
  exact ⟨hother, hnear, source, hsources hsource, hwithin.has hread hrules hhas⟩

/-- A word is suggested at the same distances among more entries and with more sources. -/
theorem distancesAs_subset (hwithin : fewer.Within more)
    (hread : (Grammar.read affix).value = .ok more.grammar)
    (hrules : ∀ rule ∈ more.grammar.compoundRules, ∃ parts, rule.IsMadeOf parts)
    (hlimit : options.limit = wider.limit) (hsources : options.sources ⊆ wider.sources) :
    fewer.distancesAs rules options token word ⊆ more.distancesAs rules wider token word :=
  distancesAs_subset_of_correctionsOf fun _ =>
    hwithin.correctionsOf_subset hread hrules hlimit hsources

end Within

variable {first second : Lexicon} {affix : Text} {options others : RankingOptions}

/-- Suggestions depend on the set of entries and the set of sources alone. -/
theorem Reordered.suggestions_eq (hreordered : first.Reordered second)
    (hread : (Grammar.read affix).value = .ok first.grammar)
    (hrules : ∀ rule ∈ first.grammar.compoundRules, ∃ parts, rule.IsMadeOf parts)
    (hoptions : options.Reordered others) (rules : List NormalizationRule) (token : Text) :
    (first.suggestions rules options token).value =
      (second.suggestions rules others token).value := by
  refine (first.listed_suggestions rules options token).eq_of_mem_iff
    (second.listed_suggestions rules others token) fun suggestion => ?_
  have hsame := hreordered.grammar_eq
  have hthere : first.distancesAs rules options token suggestion.word ⊆
      second.distancesAs rules others token suggestion.word :=
    hreordered.within.distancesAs_subset (hsame ▸ hread) (hsame ▸ hrules) hoptions.limit_eq
      fun source => (hoptions.mem_sources source).mp
  have hback : second.distancesAs rules others token suggestion.word ⊆
      first.distancesAs rules options token suggestion.word :=
    hreordered.symm.within.distancesAs_subset hread hrules hoptions.limit_eq.symm
      fun source => (hoptions.mem_sources source).mpr
  rw [mem_suggestions_iff, mem_suggestions_iff, hthere.antisymm hback, hoptions.frequencies_eq]

end Lexicon

/-! ### Sessions -/

namespace Session

/-- Two loaded sessions suggest the same if they normalize by the same rules, their lexicons are the
same but for the order of the entries, and they rank with the same options but for the order of the
sources. -/
theorem exists_suggestDetailed_eq_of_reordered {history other : List Request}
    {first second : Lexicon} (hfirst : (new.run history).lexicon = .ok first)
    (hsecond : (new.run other).lexicon = .ok second)
    (hrules : ∀ rule ∈ first.grammar.compoundRules, ∃ parts, rule.IsMadeOf parts)
    (hlexicons : first.Reordered second)
    (hnormalization : (new.run history).normalization = (new.run other).normalization)
    (hoptions : (new.run history).rankingOptions.Reordered (new.run other).rankingOptions)
    (token : Text) (limit : Nat) :
    ∃ found, (new.run history).answer (.suggestDetailed token limit) = .suggestions (.ok found) ∧
      (new.run other).answer (.suggestDetailed token limit) = .suggestions (.ok found) := by
  obtain ⟨affix, hread⟩ := exists_read_of_lexicon hfirst
  have hknown := hlexicons.check_eq hread hrules (new.run history).normalization token
  have hfound := hlexicons.suggestions_eq hread hrules hoptions (new.run history).normalization token
  refine ⟨_, answer_suggestDetailed (resultsCurrent_run resultsCurrent_new history) hfirst token
    limit, ?_⟩
  rw [answer_suggestDetailed (resultsCurrent_run resultsCurrent_new other) hsecond,
    ← hnormalization, hknown, hfound]

/-- Two sessions that are given the same stems and sources in another order, some of them twice.  A
stem for compounds is found by a replacement, the others among the stems. -/
theorem exists_suggestDetailed_eq_of_reordered_twice :
    let affix := "REP l ll\nCOMPOUNDRULE 1\nCOMPOUNDRULE X+Y?\n".toList
    let history : List Request := [.setAffix affix,
      .setDictionary "hello/X\nhelp\nheld\nbo/Y\n".toList, .setFrequencies "help\t2\n".toList,
      .setSources [.stems, .replacements]]
    let other : List Request := [.setSources [.replacements, .stems, .replacements],
      .setFrequencies "help\t2\n".toList, .setAffix affix,
      .setDictionary "held\nhello/X\nbo/Y\nhelp\nhello/X\n".toList]
    ∃ first second, (new.run history).lexicon = .ok first ∧
      (new.run other).lexicon = .ok second ∧
      first.grammar.compoundRules = [⟨"X+Y?".toList⟩] ∧
      (∀ rule ∈ first.grammar.compoundRules, ∃ parts, rule.IsMadeOf parts) ∧
      first.Reordered second ∧
      (new.run history).normalization = (new.run other).normalization ∧
      (new.run history).rankingOptions.Reordered (new.run other).rankingOptions ∧
      ∃ found,
        (new.run history).answer (.suggestDetailed "helo".toList 3) = .suggestions (.ok found) ∧
        (new.run other).answer (.suggestDetailed "helo".toList 3) = .suggestions (.ok found) ∧
        found = [⟨"help".toList, 1, ⟨0x4000000000000000⟩⟩, ⟨"held".toList, 1, .zero⟩,
          ⟨"hello".toList, 1, .zero⟩] := by
  intro affix history other
  let grammar := (Grammar.read affix).value.toOption.getD .empty
  have hread : (Grammar.read affix).value = .ok grammar := by decide +kernel
  let first := (Lexicon.build grammar
    (Dictionary.read "hello/X\nhelp\nheld\nbo/Y\n".toList).value).value
  let second := (Lexicon.build grammar
    (Dictionary.read "held\nhello/X\nbo/Y\nhelp\nhello/X\n".toList).value).value
  let frequencies := (Frequencies.read "help\t2\n".toList).value
  obtain ⟨hfirst, hnone, hoptions⟩ : (new.run history).lexicon = .ok first ∧
      (new.run history).normalization = [] ∧
      (new.run history).rankingOptions = ⟨[.stems, .replacements], 2, frequencies⟩ := by
    rw [run_cons, perform_setAffix_of_ok hread]
    exact ⟨rfl, rfl, rfl⟩
  obtain ⟨hsecond, hnoneOther, hoptionsOther⟩ : (new.run other).lexicon = .ok second ∧
      (new.run other).normalization = [] ∧
      (new.run other).rankingOptions =
        ⟨[.replacements, .stems, .replacements], 2, frequencies⟩ := by
    rw [run_cons, run_cons, run_cons, perform_setAffix_of_ok hread]
    exact ⟨rfl, rfl, rfl⟩
  have hcompounds : first.grammar.compoundRules = [⟨"X+Y?".toList⟩] := by decide +kernel
  have hparts : CompoundRule.IsMadeOf ⟨"X+Y?".toList⟩ [⟨'X', .atLeastOnce⟩, ⟨'Y', .atMostOnce⟩] :=
    ⟨by decide, by decide⟩
  have hrules := hparts.forall_mem hcompounds
  have hthere : ∀ entry ∈ first.dictionary.entries, entry ∈ second.dictionary.entries := by
    decide +kernel
  have hback : ∀ entry ∈ second.dictionary.entries, entry ∈ first.dictionary.entries := by
    decide +kernel
  have hgrammar : first.grammar = second.grammar :=
    (Lexicon.grammar_build _ _).trans (Lexicon.grammar_build _ _).symm
  have hlexicons : first.Reordered second := ⟨hgrammar, fun entry => ⟨hthere entry, hback entry⟩⟩
  have hnormalization : (new.run history).normalization = (new.run other).normalization :=
    hnone.trans hnoneOther.symm
  have hranking : (new.run history).rankingOptions.Reordered (new.run other).rankingOptions := by
    rw [hoptions, hoptionsOther]
    exact ⟨rfl, rfl, by simp [or_comm]⟩
  have hunknown : (first.check [] "helo".toList).value = false := by decide +kernel
  have hcandidates : (first.candidates [] ⟨[.stems, .replacements], 2, frequencies⟩
      "helo".toList).value.list =
      [⟨"help".toList, 1, .zero⟩, ⟨"held".toList, 1, .zero⟩, ⟨"hello".toList, 1, .zero⟩] := by
    decide +kernel
  have hsuggestions : (first.suggestions [] ⟨[.stems, .replacements], 2, frequencies⟩
      "helo".toList).value = [⟨"help".toList, 1, ⟨0x4000000000000000⟩⟩,
        ⟨"held".toList, 1, .zero⟩, ⟨"hello".toList, 1, .zero⟩] :=
    Lexicon.suggestions_eq_of_candidates hcandidates (by decide +kernel) (by decide +kernel)
  obtain ⟨found, hfound, hfoundOther⟩ := exists_suggestDetailed_eq_of_reordered hfirst hsecond
    hrules hlexicons hnormalization hranking "helo".toList 3
  refine ⟨first, second, hfirst, hsecond, hcompounds, hrules, hlexicons, hnormalization, hranking,
    found, hfound, hfoundOther, ?_⟩
  rw [answer_suggestDetailed (resultsCurrent_run resultsCurrent_new _) hfirst, hnone, hoptions,
    hunknown, hsuggestions] at hfound
  cases hfound
  rfl

end Session

end Orthography
