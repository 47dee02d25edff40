import Orthography.Proofs.Suggestion.Offered
import Orthography.Proofs.Suggestion.Ranked
import Orthography.Proofs.Suggestion.Recorded

/-!
# What is suggested, and at which distance

The corrections of a word are the other words within the limit that its sources have for it.  They
are looked for from the bases of a misspelt word and offered in its case.  The suggestions for it
are the words so offered, each once, at the smallest distance that one of its corrections has from
its base (`suggestions_spec`).
-/

namespace Orthography

namespace Entry

/-- An entry is near a word if one of its variants or its stem is within the limit of it, or its
stem is within the limit of a start of the word that is as long. -/
def Near (entry : Entry) (word : Text) (limit : Nat) : Prop :=
  (∃ variant ∈ entry.variants, Text.distance variant word ≤ limit) ∨
    Text.distance entry.stem word ≤ limit ∨
      Text.distance entry.stem (word.take entry.stem.length) ≤ limit

/-- The bounded distances tell the entries that are near. -/
theorem isNear_iff_near {entry : Entry} {word : Text} {limit : Nat} :
    Source.isNear entry word limit = true ↔ entry.Near word limit := by
  simp only [Source.isNear, Near, Bool.or_eq_true, List.any_eq_true, Text.isSome_distanceWithin?,
    or_assoc]

end Entry

namespace Lexicon

variable {lexicon : Lexicon} {rules : List NormalizationRule} {options : RankingOptions}
  {limit distance : Nat} {token base correction word : Text}

/-- Every piece of a correction between blanks is a known word. -/
def KnowsPieces (lexicon : Lexicon) (rules : List NormalizationRule) (correction : Text) : Prop :=
  ∀ piece ∈ correction.splitOn ' ',
    piece ≠ [] ∧ (lexicon.check rules piece).value = true

/-- The test of a correction piece by piece. -/
theorem isSpelled_iff_knowsPieces :
    (Source.isSpelled (lexicon.check rules) correction).value = true ↔
      lexicon.KnowsPieces rules correction := by
  rw [Source.isSpelled, Logged.value_allOf, List.all_eq_true]
  refine forall₂_congr fun piece _ => ?_
  cases piece <;> simp

/-- A source has a correction for a word: a rewrite by a replacement whose pieces are all known, or
a word that an entry near the word expands to and that may be offered. -/
def Has (lexicon : Lexicon) (rules : List NormalizationRule) (limit : Nat)
    (base correction : Text) : Source → Prop
  | .replacements => correction ∈ Replacement.variants lexicon.grammar.replacements base ∧
      lexicon.KnowsPieces rules correction
  | .stems => ∃ entry ∈ lexicon.dictionary.entries,
      lexicon.marks Settings.noSuggest entry = false ∧
        lexicon.marks Settings.onlyInCompound entry = false ∧ entry.Near base limit ∧
          correction ∈ (lexicon.expand entry).value

/-- What a source offers is what it has. -/
theorem mem_corrections_iff_has {source : Source} :
    correction ∈ (source.corrections lexicon (lexicon.check rules) base limit).value ↔
      lexicon.Has rules limit base correction source := by
  cases source with
  | replacements => exact mem_rewrites.trans (and_congr_right fun _ => isSpelled_iff_knowsPieces)
  | stems =>
      refine mem_nearForms.trans (exists_congr fun entry => and_congr_right fun _ => ?_)
      rw [Source.mayOffer, Bool.and_eq_true_iff, Bool.not_eq_true', Bool.not_eq_true',
        Entry.isNear_iff_near, and_assoc]

/-- The corrections of a word: other words within the limit that some source has for it. -/
def correctionsOf (lexicon : Lexicon) (rules : List NormalizationRule) (options : RankingOptions)
    (base : Text) : Set Text :=
  {correction | correction ≠ base ∧ Text.distance correction base ≤ options.limit ∧
    ∃ source ∈ options.sources, lexicon.Has rules options.limit base correction source}

/-- The distances at which a word is suggested for another: those of the corrections that are
offered as it, each from its base. -/
def distancesAs (lexicon : Lexicon) (rules : List NormalizationRule) (options : RankingOptions)
    (token word : Text) : Set Nat :=
  {distance | ∃ base ∈ token.bases, ∃ correction ∈ lexicon.correctionsOf rules options base,
    token.offeredAs correction = word ∧ distance = Text.distance correction base}

/-- Where every word has more corrections, a word is suggested at more distances. -/
theorem distancesAs_subset_of_correctionsOf {other : Lexicon} {others : RankingOptions}
    (hmore : ∀ base, lexicon.correctionsOf rules options base ⊆
      other.correctionsOf rules others base) :
    lexicon.distancesAs rules options token word ⊆ other.distancesAs rules others token word := by
  rintro distance ⟨base, hbase, correction, hcorrection, hoffered⟩
  exact ⟨base, hbase, correction, hmore base hcorrection, hoffered⟩

/-- All that the sources offer for a word, each correction at its distance. -/
def offersFor (lexicon : Lexicon) (rules : List NormalizationRule) (options : RankingOptions)
    (base : Text) : List (Text × Nat) :=
  (options.sources.flatMap fun source =>
    (source.corrections lexicon (lexicon.check rules) base options.limit).value).map
      fun correction => (correction, Text.distance correction base)

/-- What is offered for a word is what its sources have. -/
theorem mem_offersFor :
    (correction, distance) ∈ lexicon.offersFor rules options base ↔
      (∃ source ∈ options.sources, lexicon.Has rules options.limit base correction source) ∧
        distance = Text.distance correction base := by
  simp only [offersFor, List.mem_map, List.mem_flatMap, mem_corrections_iff_has, Prod.mk.injEq]
  constructor
  · rintro ⟨other, hother, rfl, rfl⟩
    exact ⟨hother, rfl⟩
  · rintro ⟨hsource, rfl⟩
    exact ⟨correction, hsource, rfl, rfl⟩

/-- Collecting adds what is offered. -/
theorem collect_eq_addOffers (lexicon : Lexicon) (rules : List NormalizationRule)
    (options : RankingOptions) (base : Text) :
    (Source.collect lexicon (lexicon.check rules) options.sources base options.limit).value =
      (Candidates.start base options.limit).addOffers (lexicon.offersFor rules options base) := by
  have hfound : ((options.sources.map fun source =>
        some <$> source.corrections lexicon (lexicon.check rules) base options.limit).filterMap
          (·.value)).flatten =
      options.sources.flatMap fun source =>
        (source.corrections lexicon (lexicon.check rules) base options.limit).value := by
    simp [List.filterMap_map, List.flatMap_def, Function.comp_def]
  rw [Source.collect, Logged.value_map, Logged.value_gather, hfound, Candidates.addAll_eq_addOffers]
  rfl

/-- What is collected from a word are its corrections, each at its distance. -/
theorem exists_mem_collect_iff :
    (∃ suggestion ∈ (Source.collect lexicon (lexicon.check rules) options.sources base
        options.limit).value.list,
        suggestion.word = correction ∧ suggestion.distance = distance) ↔
      correction ∈ lexicon.correctionsOf rules options base ∧
        distance = Text.distance correction base := by
  rw [collect_eq_addOffers, Candidates.exists_mem_addOffers_iff]
  constructor
  · rintro ⟨hother, ⟨hoffered, hnear⟩, -⟩
    obtain ⟨hsource, rfl⟩ := mem_offersFor.mp hoffered
    exact ⟨⟨hother, hnear, hsource⟩, rfl⟩
  · rintro ⟨⟨hother, hnear, hsource⟩, rfl⟩
    refine ⟨hother, ⟨mem_offersFor.mpr ⟨hsource, rfl⟩, hnear⟩, ?_⟩
    rintro _ ⟨hoffered, -⟩
    exact (mem_offersFor.mp hoffered).2.ge

/-- Capitalized, what is collected from a word are its corrections capitalized. -/
theorem exists_mem_collect_upperFirst_iff :
    (∃ suggestion ∈ (Source.collect lexicon (lexicon.check rules) options.sources base
        options.limit).value.list,
        suggestion.word.upperFirst = word ∧ suggestion.distance = distance) ↔
      ∃ correction ∈ lexicon.correctionsOf rules options base,
        correction.upperFirst = word ∧ distance = Text.distance correction base := by
  constructor
  · rintro ⟨suggestion, hsuggestion, hword, hdistance⟩
    obtain ⟨hcorrection, hequal⟩ :=
      exists_mem_collect_iff.mp ⟨suggestion, hsuggestion, rfl, hdistance⟩
    exact ⟨suggestion.word, hcorrection, hword, hequal⟩
  · rintro ⟨correction, hcorrection, hword, hequal⟩
    obtain ⟨suggestion, hsuggestion, rfl, hdistance⟩ :=
      exists_mem_collect_iff.mpr ⟨hcorrection, hequal⟩
    exact ⟨suggestion, hsuggestion, hword, hdistance⟩

/-! ### What is suggested -/

/-- The candidates for a word are what is offered as other words, at the same distances. -/
theorem exists_candidates_eq_addOffers (lexicon : Lexicon) (rules : List NormalizationRule)
    (options : RankingOptions) (token : Text) :
    ∃ offers, (lexicon.candidates rules options token).value =
        (Candidates.start token options.limit).addOffers offers ∧
      ∀ word, word ≠ token → Candidates.distancesOf offers options.limit word =
        lexicon.distancesAs rules options token word := by
  unfold candidates
  split
  · rename_i lowered hshape hlowered
    obtain ⟨hbases, hoffered⟩ := Text.bases_of_firstUpper hshape hlowered
    simp only [Logged.value_bind, Logged.value_pure]
    refine ⟨_, Candidates.capitalized_eq_addOffers _ _ _, fun word _ => ?_⟩
    ext distance
    rw [distancesAs, hbases]
    simp only [Candidates.distancesOf, Set.mem_ofPred_eq, List.mem_map, Prod.mk.injEq,
      List.mem_append, or_and_right, exists_or, exists_mem_collect_upperFirst_iff, hoffered,
      List.mem_cons, List.not_mem_nil, or_false, exists_eq_left]
    -- What is collected is within the limit, so the limit leaves nothing out.
    refine or_congr (and_iff_left_of_imp ?_) (and_iff_left_of_imp ?_) <;>
      · rintro ⟨_, hcorrection, -, rfl⟩
        exact hcorrection.2.1
  · rename_i hplain
    obtain ⟨hbases, hoffered⟩ := Text.bases_of_not_firstUpper hplain
    refine ⟨_, collect_eq_addOffers lexicon rules options token, fun word hother => ?_⟩
    ext distance
    rw [distancesAs, hbases]
    simp only [Candidates.distancesOf, Set.mem_ofPred_eq, mem_offersFor, hoffered,
      List.mem_singleton, exists_eq_left]
    constructor
    · rintro ⟨⟨hsource, rfl⟩, hnear⟩
      exact ⟨word, ⟨hother, hnear, hsource⟩, rfl, rfl⟩
    · rintro ⟨_, hcorrection, rfl, rfl⟩
      exact ⟨⟨hcorrection.2.2, rfl⟩, hcorrection.2.1⟩

/-- The candidates for a word record the other words that are offered for it, each at its smallest
distance. -/
theorem exists_records_candidates (lexicon : Lexicon) (rules : List NormalizationRule)
    (options : RankingOptions) (token : Text) :
    ∃ offers, (lexicon.candidates rules options token).value.Records offers ∧
      (lexicon.candidates rules options token).value.word = token ∧
      (lexicon.candidates rules options token).value.limit = options.limit ∧
      ∀ word, word ≠ token → Candidates.distancesOf offers options.limit word =
        lexicon.distancesAs rules options token word := by
  obtain ⟨offers, hcandidates, hdistances⟩ :=
    exists_candidates_eq_addOffers lexicon rules options token
  obtain ⟨hword, hlimit⟩ :=
    Candidates.addOffers_fixed (Candidates.start token options.limit) offers
  rw [hcandidates]
  exact ⟨offers, (Candidates.records_addOffers token options.limit offers).2, hword, hlimit,
    hdistances⟩

/-- The suggestions for a word are the other words that are offered for it, each once, at the
smallest distance that a correction so offered has from its base. -/
theorem suggestions_spec (lexicon : Lexicon) (rules : List NormalizationRule)
    (options : RankingOptions) (token : Text) :
    ((lexicon.suggestions rules options token).value.map (·.word)).Nodup ∧
      ∀ word distance, (∃ suggestion ∈ (lexicon.suggestions rules options token).value,
          suggestion.word = word ∧ suggestion.distance = distance) ↔
        word ≠ token ∧ IsLeast (lexicon.distancesAs rules options token word) distance := by
  obtain ⟨offers, hrecords, hword, hlimit, hdistances⟩ :=
    exists_records_candidates lexicon rules options token
  have hranked := hrecords.rank options.frequencies
  rw [suggestions, Logged.value_map]
  refine ⟨hranked.nodup, fun word distance => ?_⟩
  rw [hranked.exists_mem_iff, Candidates.word_rank, Candidates.limit_rank, hword, hlimit]
  exact and_congr_right fun hother => by rw [hdistances word hother]

/-- Suggestions have the weights of their words, or of the lower-case forms of these. -/
theorem weight_of_mem_suggestions {suggestion : Suggestion}
    (hsuggestion : suggestion ∈ (lexicon.suggestions rules options token).value) :
    suggestion.weight = options.frequencies.foldedWeight suggestion.word := by
  rw [suggestions, Logged.value_map, Candidates.mem_list_rank] at hsuggestion
  obtain ⟨_, -, rfl⟩ := hsuggestion
  rfl

/-- The candidates with their weights, in order, are the suggestions. -/
theorem suggestions_eq_of_candidates {listed found : List Suggestion}
    (hlisted : (lexicon.candidates rules options token).value.list = listed)
    (hfound : (listed.map fun candidate =>
      { candidate with weight := options.frequencies.foldedWeight candidate.word }).Perm found)
    (hordered : found.Pairwise fun a b => Candidates.ranksBefore a b = true) :
    (lexicon.suggestions rules options token).value = found := by
  subst hlisted
  rw [suggestions, Logged.value_map]
  exact Candidates.list_rank_eq hfound hordered

/-- A suggestion is made for a word if it is another word, at the least distance at which it is
offered, and has its own weight. -/
theorem mem_suggestions_iff {suggestion : Suggestion} :
    suggestion ∈ (lexicon.suggestions rules options token).value ↔
      (suggestion.word ≠ token ∧
        IsLeast (lexicon.distancesAs rules options token suggestion.word) suggestion.distance) ∧
        suggestion.weight = options.frequencies.foldedWeight suggestion.word := by
  have hspec := (lexicon.suggestions_spec rules options token).2
  rw [← hspec]
  constructor
  · intro hsuggestion
    exact ⟨⟨suggestion, hsuggestion, rfl, rfl⟩, weight_of_mem_suggestions hsuggestion⟩
  · rintro ⟨⟨held, hheld, hword, hdistance⟩, hown⟩
    have hsame : held = suggestion := by
      rw [Suggestion.mk.injEq]
      exact ⟨hword, hdistance, by rw [weight_of_mem_suggestions hheld, hown, hword]⟩
    exact hsame ▸ hheld

/-! ### The usual sources -/

/-- The corrections from the usual sources are the rewrites and the forms of near entries. -/
theorem mem_correctionsOf_usual (husual : options.sources = Source.usual) :
    correction ∈ lexicon.correctionsOf rules options base ↔
      lexicon.Rewrites rules options.limit base correction ∨
        ∃ entry, lexicon.Scans options.limit base entry correction := by
  have hsources : (∃ source ∈ options.sources,
        lexicon.Has rules options.limit base correction source) ↔
      lexicon.Has rules options.limit base correction .replacements ∨
        lexicon.Has rules options.limit base correction .stems := by
    simp [husual, Source.usual]
  have hcorrects : Corrects options.limit base correction ↔
      correction ≠ base ∧ Text.distance correction base ≤ options.limit := by
    rw [Corrects, Text.isSome_distanceWithin?, and_comm]
  rw [← mem_corrections_iff_has, ← mem_corrections_iff_has] at hsources
  simp only [Rewrites, Scans, exists_and_right, ← or_and_right, hcorrects]
  rw [← mem_nearForms, ← mem_rewrites]
  refine (and_assoc.symm.trans ?_).trans and_comm
  exact and_congr_right fun _ => hsources

/-- The candidates for a word are the rewrites and forms of near entries that are found from its
bases, offered in its case, but for the word itself. -/
theorem mem_words_candidates (husual : options.sources = Source.usual) :
    word ∈ (lexicon.candidates rules options token).value.words ↔
      (∃ base ∈ token.bases, ∃ correction, (lexicon.Rewrites rules options.limit base correction ∨
        ∃ entry, lexicon.Scans options.limit base entry correction) ∧
          word = token.offeredAs correction) ∧ word ≠ token := by
  obtain ⟨offers, hrecords, hword, hlimit, hdistances⟩ :=
    exists_records_candidates lexicon rules options token
  rw [hrecords.mem_words, hword, hlimit, and_comm]
  refine and_congr_left fun hother => ?_
  rw [hdistances word hother]
  simp only [← mem_correctionsOf_usual husual]
  constructor
  · rintro ⟨_, base, hbase, correction, hcorrection, hoffered, -⟩
    exact ⟨base, hbase, correction, hcorrection, hoffered.symm⟩
  · rintro ⟨base, hbase, correction, hcorrection, rfl⟩
    exact ⟨_, base, hbase, correction, hcorrection, rfl, rfl⟩

end Lexicon

end Orthography
