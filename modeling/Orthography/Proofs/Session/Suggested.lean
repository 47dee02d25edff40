import Orthography.Proofs.Session.History
import Orthography.Proofs.Suggestion.Corrections

/-!
# All that a session suggests

With enough room, the suggestions for an unknown word are all its corrections, each once and at its
own distance.  For a capitalized word they are the capitalized corrections of the word and of its
lowered form, and each stands at the least distance at which one of these was found
(`exists_suggestDetailed_eq`).
-/

namespace Orthography

namespace Lexicon

variable {lexicon : Lexicon} {rules : List NormalizationRule} {options : RankingOptions}
  {distance : Nat} {token word : Text}

/-- What is to be suggested for a word, and at which distance: its corrections, at theirs; for a
capitalized word the capitalized corrections of it and of its lowered form, but for the word itself,
each at the least distance that one of them has from the word it corrects. -/
def Suggests (lexicon : Lexicon) (rules : List NormalizationRule) (options : RankingOptions)
    (token word : Text) (distance : Nat) : Prop :=
  match token.caseShape, token.lowerFirst? with
  | .firstUpper, some lowered => word ≠ token ∧ IsLeast
      {found | ∃ base ∈ [token, lowered], ∃ correction ∈ lexicon.correctionsOf rules options base,
        correction.upperFirst = word ∧ found = Text.distance correction base} distance
  | _, _ => word ∈ lexicon.correctionsOf rules options token ∧ distance = Text.distance word token

/-- Both cases are one: another word is suggested at the least distance at which it is offered. -/
theorem suggests_iff :
    lexicon.Suggests rules options token word distance ↔
      word ≠ token ∧ IsLeast (lexicon.distancesAs rules options token word) distance := by
  unfold Suggests distancesAs
  split
  · rename_i lowered hshape hlowered
    obtain ⟨hbases, hoffered⟩ := Text.bases_of_firstUpper hshape hlowered
    simp only [hbases, hoffered]
  · rename_i hplain
    obtain ⟨hbases, hoffered⟩ := Text.bases_of_not_firstUpper hplain
    simp only [hbases, hoffered, List.mem_singleton, exists_eq_left]
    constructor
    · rintro ⟨hword, rfl⟩
      refine ⟨hword.1, ⟨word, hword, rfl, rfl⟩, ?_⟩
      rintro _ ⟨_, -, rfl, rfl⟩
      exact le_rfl
    · rintro ⟨-, ⟨_, hword, rfl, rfl⟩, -⟩
      exact ⟨hword, rfl⟩

end Lexicon

namespace Session

variable {session : Session} {lexicon : Lexicon}

/-- A loaded session checks words by its lexicon. -/
theorem answer_check (hcurrent : ResultsCurrent session)
    (hlexicon : session.lexicon = .ok lexicon) (word : Text) :
    session.answer (.check word) =
      .verdict (.ok (lexicon.check session.normalization word).value) := by
  have hknown := check_snd hcurrent word
  rw [hlexicon] at hknown
  exact congrArg Answer.verdict hknown

/-- The detailed suggestions of a session are the first of those of its lexicon, unless the word is
known. -/
theorem answer_suggestDetailed (hcurrent : ResultsCurrent session)
    (hlexicon : session.lexicon = .ok lexicon) (token : Text) (limit : Nat) :
    session.answer (.suggestDetailed token limit) = .suggestions (.ok
      (if limit = 0 ∨ (lexicon.check session.normalization token).value = true then []
        else (lexicon.suggestions session.normalization session.rankingOptions token).value.take
          limit)) := by
  have hfound := suggest_snd hcurrent token limit
  rw [hlexicon] at hfound
  exact congrArg Answer.suggestions hfound

/-- The suggestions of a loaded session for a word, with room for all: none for a known word, and
otherwise all that its lexicon has. -/
theorem answer_suggestDetailed_of_room {full : List Suggestion} {token : Text} {limit : Nat}
    (hcurrent : ResultsCurrent session) (hlexicon : session.lexicon = .ok lexicon)
    (hfull : full = if (lexicon.check session.normalization token).value then []
      else (lexicon.suggestions session.normalization session.rankingOptions token).value)
    (hroom : full.length ≤ limit) :
    session.answer (.suggestDetailed token limit) = .suggestions (.ok full) := by
  rw [answer_suggestDetailed hcurrent hlexicon]
  subst hfull
  cases hknown : (lexicon.check session.normalization token).value with
  | true => simp
  | false =>
      simp only [hknown, Bool.false_eq_true, ↓reduceIte, or_false] at hroom ⊢
      split
      · rename_i hnone
        rw [hnone, Nat.le_zero, List.length_eq_zero_iff] at hroom
        rw [hroom]
      · rw [List.take_of_length_le hroom]

/-- All suggestions ever given for a word have a property exactly if the word is known or all that
the lexicon has for it have the property. -/
theorem forall_mem_answer_suggestDetailed_iff (hcurrent : ResultsCurrent session)
    (hlexicon : session.lexicon = .ok lexicon) {token : Text} {holds : Suggestion → Prop} :
    (∀ limit found, session.answer (.suggestDetailed token limit) = .suggestions (.ok found) →
        ∀ suggestion ∈ found, holds suggestion) ↔
      (lexicon.check session.normalization token).value = true ∨
        ∀ suggestion ∈
          (lexicon.suggestions session.normalization session.rankingOptions token).value,
            holds suggestion := by
  constructor
  · intro hall
    refine or_iff_not_imp_left.mpr fun hunknown suggestion hsuggestion => ?_
    refine hall _ _ (answer_suggestDetailed hcurrent hlexicon token
      ((lexicon.suggestions session.normalization session.rankingOptions token).value.length + 1))
        suggestion ?_
    rwa [if_neg (by simpa using hunknown), List.take_of_length_le (Nat.le_succ _)]
  · intro hall limit found hfound suggestion hsuggestion
    rw [answer_suggestDetailed hcurrent hlexicon] at hfound
    cases hfound
    split at hsuggestion
    · cases hsuggestion
    · rename_i hasked
      exact hall.resolve_left (not_or.mp hasked).2 suggestion (List.mem_of_mem_take hsuggestion)

/-- For a word that a loaded session does not know there is a full list of suggestions, which is the
answer for every limit that has room for it.  It holds each word that is to be suggested once, at
its distance, and nothing else. -/
theorem exists_suggestDetailed_eq {history : List Request} {token : Text}
    (hlexicon : (new.run history).lexicon = .ok lexicon)
    (hunknown : (new.run history).answer (.check token) = .verdict (.ok false)) :
    ∃ full, (∀ limit, full.length ≤ limit →
        (new.run history).answer (.suggestDetailed token limit) = .suggestions (.ok full)) ∧
      (full.map (·.word)).Nodup ∧
      ∀ word distance,
        (∃ suggestion ∈ full, suggestion.word = word ∧ suggestion.distance = distance) ↔
          lexicon.Suggests (new.run history).normalization (new.run history).rankingOptions token
            word distance := by
  have hcurrent : ResultsCurrent (new.run history) := resultsCurrent_run resultsCurrent_new history
  obtain ⟨hnodup, hspec⟩ := lexicon.suggestions_spec (new.run history).normalization
    (new.run history).rankingOptions token
  refine ⟨_, fun limit hroom => ?_, hnodup, fun word distance =>
    (hspec word distance).trans Lexicon.suggests_iff.symm⟩
  rw [answer_check hcurrent hlexicon, Answer.verdict.injEq, Except.ok.injEq] at hunknown
  rw [answer_suggestDetailed hcurrent hlexicon, hunknown]
  split
  · rename_i hnone
    rw [hnone.resolve_right Bool.false_ne_true, Nat.le_zero, List.length_eq_zero_iff] at hroom
    rw [hroom]
  · rw [List.take_of_length_le hroom]

/-- All suggestions for a capitalized word, whose corrections are near both to it and to its lowered
form. -/
theorem exists_suggestDetailed_eq_capitalized :
    ∃ lexicon, (new.run [.setAffix [], .setDictionary "hello\nhelp\n".toList]).lexicon =
        .ok lexicon ∧
      (new.run [.setAffix [], .setDictionary "hello\nhelp\n".toList]).answer
        (.check "Helo".toList) = .verdict (.ok false) ∧
      ∃ full, (∀ limit, full.length ≤ limit →
          (new.run [.setAffix [], .setDictionary "hello\nhelp\n".toList]).answer
            (.suggestDetailed "Helo".toList limit) = .suggestions (.ok full)) ∧
        (full.map (·.word)).Nodup ∧
        ∀ word distance,
          (∃ suggestion ∈ full, suggestion.word = word ∧ suggestion.distance = distance) ↔
            lexicon.Suggests
              (new.run [.setAffix [], .setDictionary "hello\nhelp\n".toList]).normalization
              (new.run [.setAffix [], .setDictionary "hello\nhelp\n".toList]).rankingOptions
              "Helo".toList word distance := by
  let grammar := (Grammar.read []).value.toOption.getD .empty
  have hread : (Grammar.read []).value = .ok grammar := by decide +kernel
  obtain ⟨hlexicon, hrules, -⟩ := run_new_pair hread "hello\nhelp\n".toList
  have hunknown : (new.run [.setAffix [], .setDictionary "hello\nhelp\n".toList]).answer
      (.check "Helo".toList) = .verdict (.ok false) := by
    rw [answer_check (resultsCurrent_run resultsCurrent_new _) hlexicon, hrules]
    exact congrArg (Answer.verdict ∘ Except.ok) (by decide +kernel)
  exact ⟨_, hlexicon, hunknown, exists_suggestDetailed_eq hlexicon hunknown⟩

end Session

end Orthography
