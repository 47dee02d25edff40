import Orthography.Proofs.Checking
import Orthography.Suggestion.Ranking

/-!
# Where suggestions come from

Corrections are looked for from the misspelt word and, if it is capitalized, from its lowered form;
those of a capitalized word are capitalized.  Each of them is either a rewrite by a replacement
whose pieces are all known words, or a form of an entry near the word, and is within the limit.
-/

namespace Orthography

namespace Text

/-- The words from which corrections of a word are looked for: the word itself and, if it is
capitalized, its lowered form. -/
def bases (token : Text) : List Text :=
  match token.caseShape, token.lowerFirst? with
  | .firstUpper, some lowered => [token, lowered]
  | _, _ => [token]

/-- A correction as it is offered for a word: capitalized, if the word is. -/
def offeredAs (token correction : Text) : Text :=
  match token.caseShape, token.lowerFirst? with
  | .firstUpper, some _ => correction.upperFirst
  | _, _ => correction

/-- A capitalized word has two bases, and its corrections are capitalized. -/
theorem bases_of_firstUpper {token lowered : Text} (hshape : token.caseShape = .firstUpper)
    (hlowered : token.lowerFirst? = some lowered) :
    token.bases = [token, lowered] ∧ ∀ correction, token.offeredAs correction =
      correction.upperFirst := by
  unfold bases offeredAs
  rw [hshape, hlowered]
  exact ⟨rfl, fun _ => rfl⟩

/-- Any other word is its own base, and its corrections are offered as they are. -/
theorem bases_of_not_firstUpper {token : Text}
    (hplain : ∀ lowered, token.caseShape = .firstUpper → token.lowerFirst? = some lowered →
      False) :
    token.bases = [token] ∧ ∀ correction, token.offeredAs correction = correction := by
  unfold bases offeredAs
  split
  · rename_i lowered hshape hlowered
    exact absurd hlowered (hplain lowered hshape)
  · exact ⟨rfl, fun _ => rfl⟩

/-- A correction is offered as it is or capitalized. -/
theorem offeredAs_eq_or (token correction : Text) :
    token.offeredAs correction = correction ∨
      token.offeredAs correction = correction.upperFirst := by
  unfold offeredAs
  split
  · exact .inr rfl
  · exact .inl rfl

end Text

namespace Lexicon

variable {lexicon : Lexicon} {rules : List NormalizationRule} {limit : Nat}
  {token base correction word : Text}

/-- A correction is near enough to a word, and not the word itself. -/
def Corrects (limit : Nat) (base correction : Text) : Prop :=
  (Text.distanceWithin? correction base limit).isSome = true ∧ correction ≠ base

/-- A correction comes from a replacement in a word, and all its pieces are known. -/
def Rewrites (lexicon : Lexicon) (rules : List NormalizationRule) (limit : Nat)
    (base correction : Text) : Prop :=
  (correction ∈ Replacement.variants lexicon.grammar.replacements base ∧
    (Source.isSpelled (lexicon.check rules) correction).value = true) ∧
      Corrects limit base correction

/-- A correction is a form of an entry whose forms may be offered and which is near a word. -/
def Scans (lexicon : Lexicon) (limit : Nat) (base : Text) (entry : Entry) (correction : Text) :
    Prop :=
  (entry ∈ lexicon.dictionary.entries ∧ Source.mayOffer lexicon entry = true ∧
    Source.isNear entry base limit = true ∧ correction ∈ (lexicon.expand entry).value) ∧
      Corrects limit base correction

/-- The rewrites that are offered are those with known pieces only. -/
theorem mem_rewrites {spell : Text → Logged Bool} :
    correction ∈ (Source.rewrites lexicon spell base).value ↔
      correction ∈ Replacement.variants lexicon.grammar.replacements base ∧
        (Source.isSpelled spell correction).value = true := by
  rw [Source.rewrites, Logged.value_gather, List.mem_filterMap]
  constructor
  · rintro ⟨result, hresult, hvalue⟩
    obtain ⟨variant, hvariant, rfl⟩ := List.mem_map.mp hresult
    rw [Logged.value_map] at hvalue
    split at hvalue
    · rename_i hspelled
      cases hvalue
      exact ⟨hvariant, hspelled⟩
    · cases hvalue
  · rintro ⟨hvariant, hspelled⟩
    refine ⟨_, List.mem_map.mpr ⟨correction, hvariant, rfl⟩, ?_⟩
    rw [Logged.value_map, hspelled]
    rfl

/-- What an entry offers is what it expands to. -/
theorem mem_offered {entry : Entry} :
    word ∈ (Source.offered lexicon entry).value ↔ word ∈ (lexicon.expand entry).value := by
  rw [Source.offered, expand, Logged.value_map, Logged.value_map, List.mem_eraseDups]

/-- The forms that are offered are those of the entries near the word that may be offered. -/
theorem mem_nearForms :
    correction ∈ (Source.nearForms lexicon base limit).value ↔
      ∃ entry, entry ∈ lexicon.dictionary.entries ∧ Source.mayOffer lexicon entry = true ∧
        Source.isNear entry base limit = true ∧ correction ∈ (lexicon.expand entry).value := by
  rw [Source.nearForms, Logged.value_map, Logged.value_gather, List.filterMap_map, List.mem_flatten]
  constructor
  · rintro ⟨forms, hforms, hcorrection⟩
    obtain ⟨entry, hentry, hvalue⟩ := List.mem_filterMap.mp hforms
    cases hvalue
    obtain ⟨hheld, hoffered⟩ := List.mem_filter.mp hentry
    obtain ⟨hmay, hnear⟩ := Bool.and_eq_true_iff.mp hoffered
    exact ⟨entry, hheld, hmay, hnear, mem_offered.mp hcorrection⟩
  · rintro ⟨entry, hheld, hmay, hnear, hcorrection⟩
    refine ⟨_, List.mem_filterMap.mpr ⟨entry, List.mem_filter.mpr ⟨hheld, ?_⟩, rfl⟩,
      mem_offered.mpr hcorrection⟩
    exact Bool.and_eq_true_iff.mpr ⟨hmay, hnear⟩

end Lexicon

end Orthography
