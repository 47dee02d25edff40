import Orthography.Proofs.Session.History
import Orthography.Proofs.Suggestion.Corrections

/-!
# Words that are not to be suggested

A word is withheld if entries give it and all of them are marked as never suggested.  The scan of
the stem list passes over marked entries, so its forms are not withheld as they are.  Two ways
around the mark remain: a replacement only asks whether the pieces of a rewrite are known, and a
form that is capitalized may become another word.  Suggestions keep to the mark exactly if neither
leads to a withheld word.
-/

namespace Orthography

namespace Text

/-- A suggestion stands for a form if it is the form, or is the form once its first letter is
lowered. -/
def StandsFor (word form : Text) : Prop := word = form ∨ word.lowerFirst? = some form

end Text

namespace Lexicon

variable {lexicon : Lexicon} {rules : List NormalizationRule} {limit : Nat}
  {token word correction : Text} {entry : Entry}

/-- An entry shows a word if it expands to the word or to its lowered form. -/
def Shows (lexicon : Lexicon) (entry : Entry) (word : Text) : Prop :=
  word ∈ (lexicon.expand entry).value ∨
    ∃ lowered ∈ word.lowerFirst?, lowered ∈ (lexicon.expand entry).value

instance (lexicon : Lexicon) (entry : Entry) (word : Text) :
    Decidable (lexicon.Shows entry word) :=
  inferInstanceAs (Decidable (_ ∨ _))

/-- A word is withheld if some entry shows it and every entry that does is marked as never
suggested. -/
def Withheld (lexicon : Lexicon) (word : Text) : Prop :=
  (∃ entry ∈ lexicon.dictionary.entries, lexicon.Shows entry word) ∧
    ∀ entry ∈ lexicon.dictionary.entries, lexicon.Shows entry word →
      lexicon.marks Settings.noSuggest entry = true

instance (lexicon : Lexicon) (word : Text) : Decidable (lexicon.Withheld word) :=
  inferInstanceAs (Decidable (_ ∧ _))

/-- What stands for a form of an entry is shown by the entry. -/
theorem shows_of_standsFor (hword : word.StandsFor correction)
    (hform : correction ∈ (lexicon.expand entry).value) : lexicon.Shows entry word := by
  rcases hword with rfl | hlowered
  · exact .inl hform
  · exact .inr ⟨correction, hlowered, hform⟩

/-- What stands for a form that the scan of the stem list finds is not withheld: the scan passes
over marked entries. -/
theorem not_withheld_of_scans {base : Text} (hscans : lexicon.Scans limit base entry correction)
    (hword : word.StandsFor correction) : ¬ lexicon.Withheld word := by
  obtain ⟨⟨hentry, hmay, -, hform⟩, -⟩ := hscans
  rintro ⟨-, hmarked⟩
  have hnever := hmarked entry hentry (shows_of_standsFor hword hform)
  simp [Source.mayOffer, hnever] at hmay

/-- Neither the replacements nor a change of case lead from a word to a withheld one. -/
structure Discreet (lexicon : Lexicon) (rules : List NormalizationRule) (limit : Nat)
    (token : Text) : Prop where
  rewrites : ∀ base ∈ token.bases, ∀ correction, lexicon.Rewrites rules limit base correction →
    token.offeredAs correction ≠ token → ¬ lexicon.Withheld (token.offeredAs correction)
  capitals : ∀ base ∈ token.bases, ∀ entry correction, lexicon.Scans limit base entry correction →
    token.offeredAs correction ≠ token →
      ¬ (token.offeredAs correction).StandsFor correction →
        ¬ lexicon.Withheld (token.offeredAs correction)

/-- Without replacements, a word that is not capitalized leads to no withheld word. -/
theorem discreet_of_replacements_eq_nil (hreplacements : lexicon.grammar.replacements = [])
    (hshape : token.caseShape ≠ .firstUpper) : lexicon.Discreet rules limit token := by
  have hplain : ∀ lowered, token.caseShape = .firstUpper → token.lowerFirst? = some lowered →
      False := fun _ hfirst _ => hshape hfirst
  obtain ⟨-, hoffered⟩ := Text.bases_of_not_firstUpper hplain
  constructor
  · rintro base - correction ⟨⟨hvariant, -⟩, -⟩
    simp [hreplacements, Replacement.variants] at hvariant
  · intro base _ entry correction _ _ hother
    exact absurd (.inl (hoffered correction)) hother

/-- No candidate is withheld exactly if the word leads to no withheld one. -/
theorem forall_candidates_iff_discreet {options : RankingOptions}
    (husual : options.sources = Source.usual) :
    (∀ word ∈ (lexicon.candidates rules options token).value.words, ¬ lexicon.Withheld word) ↔
      lexicon.Discreet rules options.limit token := by
  constructor
  · intro hnone
    constructor
    · intro base hbase correction hrewrites hother
      exact hnone _ ((mem_words_candidates husual).mpr
        ⟨⟨base, hbase, correction, .inl hrewrites, rfl⟩, hother⟩)
    · intro base hbase entry correction hscans hother _
      exact hnone _ ((mem_words_candidates husual).mpr
        ⟨⟨base, hbase, correction, .inr ⟨entry, hscans⟩, rfl⟩, hother⟩)
  · intro hdiscreet word hword
    obtain ⟨⟨base, hbase, correction, hfound, rfl⟩, hother⟩ :=
      (mem_words_candidates husual).mp hword
    rcases hfound with hrewrites | ⟨entry, hscans⟩
    · exact hdiscreet.rewrites base hbase correction hrewrites hother
    · by_cases hstands : (token.offeredAs correction).StandsFor correction
      · exact not_withheld_of_scans hscans hstands
      · exact hdiscreet.capitals base hbase entry correction hscans hother hstands

end Lexicon

namespace Session

variable {session : Session} {lexicon : Lexicon} {token word : Text}

/-- The suggestions of a session are the first of the ranked candidates, unless the word is
known. -/
theorem answer_suggest (hcurrent : ResultsCurrent session)
    (hlexicon : session.lexicon = .ok lexicon) (token : Text) (limit : Nat) :
    session.answer (.suggest token limit) = .words (.ok
      (if limit = 0 ∨ (lexicon.check session.normalization token).value = true then []
        else ((lexicon.candidates session.normalization session.rankingOptions token).value.rank
          session.rankingOptions.frequencies).words.take limit)) := by
  have hfound := suggest_snd hcurrent token limit
  rw [hlexicon] at hfound
  refine (congrArg (fun found => Answer.words (found.map wordsOf)) hfound).trans ?_
  dsimp only [Except.map]
  split
  · rfl
  · rw [wordsOf, List.map_take]
    rfl

/-- A word is among the suggestions for some limit exactly if it is a candidate for an unknown
word. -/
theorem exists_mem_answer_suggest_iff (hcurrent : ResultsCurrent session)
    (hlexicon : session.lexicon = .ok lexicon) :
    (∃ limit words, session.answer (.suggest token limit) = .words (.ok words) ∧ word ∈ words) ↔
      (lexicon.check session.normalization token).value = false ∧
        word ∈ (lexicon.candidates session.normalization session.rankingOptions
          token).value.words := by
  constructor
  · rintro ⟨limit, words, hwords, hword⟩
    rw [answer_suggest hcurrent hlexicon] at hwords
    cases hwords
    split at hword
    · cases hword
    · rename_i hasked
      rw [not_or, Bool.not_eq_true] at hasked
      exact ⟨hasked.2, (Candidates.words_rank_perm _ _).subset (List.mem_of_mem_take hword)⟩
  · rintro ⟨hunknown, hword⟩
    let ranked := ((lexicon.candidates session.normalization session.rankingOptions
      token).value.rank session.rankingOptions.frequencies).words
    have hranked : word ∈ ranked := (Candidates.words_rank_perm _ _).symm.subset hword
    refine ⟨ranked.length + 1, ranked, ?_, hranked⟩
    rw [answer_suggest hcurrent hlexicon, hunknown, if_neg (by simp),
      List.take_of_length_le (Nat.le_succ _)]

/-- A loaded session with the usual sources suggests no withheld word, however many suggestions are
asked for, exactly if the word is known or leads to no withheld one by a replacement or a change of
case. -/
theorem forall_suggest_not_withheld_iff {history : List Request}
    (hlexicon : (new.run history).lexicon = .ok lexicon)
    (husual : (new.run history).sources = Source.usual) :
    (∀ limit words, (new.run history).answer (.suggest token limit) = .words (.ok words) →
        ∀ word ∈ words, ¬ lexicon.Withheld word) ↔
      (lexicon.check (new.run history).normalization token).value = true ∨
        lexicon.Discreet (new.run history).normalization
          (new.run history).options.maxDistance token := by
  have hcurrent : ResultsCurrent (new.run history) := resultsCurrent_run resultsCurrent_new history
  have hoffered : (∀ limit words,
      (new.run history).answer (.suggest token limit) = .words (.ok words) →
        ∀ word ∈ words, ¬ lexicon.Withheld word) ↔
      ∀ word, (∃ limit words, (new.run history).answer (.suggest token limit) =
        .words (.ok words) ∧ word ∈ words) → ¬ lexicon.Withheld word := by
    constructor
    · rintro hnone word ⟨limit, words, hwords, hword⟩
      exact hnone limit words hwords word hword
    · intro hnone limit words hwords word hword
      exact hnone word ⟨limit, words, hwords, hword⟩
  rw [hoffered]
  simp only [exists_mem_answer_suggest_iff hcurrent hlexicon]
  cases hknown : (lexicon.check (new.run history).normalization token).value with
  | true => simp
  | false =>
    simp only [true_and, Bool.false_eq_true, false_or]
    exact Lexicon.forall_candidates_iff_discreet husual

/-- A marked word near a misspelt one is not suggested. -/
theorem forall_suggest_not_withheld_iff_marked :
    ∃ lexicon, (new.run [.setAffix "NOSUGGEST NS\nSFX BS Y 1\nSFX BS 0 0 .\n".toList,
        .setDictionary "phone/BSNS\nstone/BS\n".toList]).lexicon = .ok lexicon ∧
      lexicon.Withheld "phone".toList ∧
      ∀ limit words,
        (new.run [.setAffix "NOSUGGEST NS\nSFX BS Y 1\nSFX BS 0 0 .\n".toList,
          .setDictionary "phone/BSNS\nstone/BS\n".toList]).answer
            (.suggest "phon".toList limit) = .words (.ok words) →
          ∀ word ∈ words, ¬ lexicon.Withheld word := by
  let affix := "NOSUGGEST NS\nSFX BS Y 1\nSFX BS 0 0 .\n".toList
  let grammar := (Grammar.read affix).value.toOption.getD .empty
  have hread : (Grammar.read affix).value = .ok grammar := by decide +kernel
  obtain ⟨hlexicon, -, hoptions⟩ := run_new_pair hread "phone/BSNS\nstone/BS\n".toList
  refine ⟨_, hlexicon, by decide +kernel,
    (forall_suggest_not_withheld_iff hlexicon (congrArg (·.sources) hoptions)).mpr (.inr ?_)⟩
  exact Lexicon.discreet_of_replacements_eq_nil (by decide +kernel) (by decide +kernel)

/-- With a replacement, a marked word is suggested though every entry that shows it is marked. -/
theorem suggest_withheld_of_replacement :
    ∃ lexicon,
      (new.run [.setAffix "NOSUGGEST NS\nSFX BS Y 1\nSFX BS 0 0 .\nREP ee e\n".toList,
        .setDictionary "phone/BSNS\n".toList]).lexicon = .ok lexicon ∧
      (new.run [.setAffix "NOSUGGEST NS\nSFX BS Y 1\nSFX BS 0 0 .\nREP ee e\n".toList,
        .setDictionary "phone/BSNS\n".toList]).sources = Source.usual ∧
      (new.run [.setAffix "NOSUGGEST NS\nSFX BS Y 1\nSFX BS 0 0 .\nREP ee e\n".toList,
        .setDictionary "phone/BSNS\n".toList]).normalization = [] ∧
      lexicon.grammar.compoundRules = [] ∧
      (new.run [.setAffix "NOSUGGEST NS\nSFX BS Y 1\nSFX BS 0 0 .\nREP ee e\n".toList,
        .setDictionary "phone/BSNS\n".toList]).answer (.suggest "phonee".toList 5) =
          .words (.ok ["phone".toList]) ∧
      lexicon.Withheld "phone".toList := by
  let affix := "NOSUGGEST NS\nSFX BS Y 1\nSFX BS 0 0 .\nREP ee e\n".toList
  let grammar := (Grammar.read affix).value.toOption.getD .empty
  let lexicon := (Lexicon.build grammar (Dictionary.read "phone/BSNS\n".toList).value).value
  have hread : (Grammar.read affix).value = .ok grammar := by decide +kernel
  obtain ⟨hlexicon, hrules, hoptions⟩ := run_new_pair hread "phone/BSNS\n".toList
  refine ⟨lexicon, hlexicon, congrArg (·.sources) hoptions, hrules, by decide +kernel, ?_,
    by decide +kernel⟩
  have hunknown : (lexicon.check [] "phonee".toList).value = false := by decide +kernel
  have hcandidates : (lexicon.candidates [] new.rankingOptions "phonee".toList).value.words =
      ["phone".toList] := by decide +kernel
  have hranked := Candidates.words_rank_perm
    (lexicon.candidates [] new.rankingOptions "phonee".toList).value new.rankingOptions.frequencies
  rw [hcandidates, List.perm_singleton] at hranked
  rw [answer_suggest (resultsCurrent_run resultsCurrent_new _) hlexicon, hrules, hoptions, hunknown,
    hranked]
  rfl

end Session

end Orthography
