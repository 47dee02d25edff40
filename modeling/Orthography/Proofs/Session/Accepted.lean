import Orthography.Proofs.Session.Withheld

/-!
# Whether suggestions are words

What is suggested as it was found is a word, unless it is empty: a rewrite has known pieces, and a
form is one that checking finds too.  But the corrections of a capitalized word are capitalized, and
nobody asks whether the result is still a word.  It is one for a form that lowers back to itself and
whose entry does not keep its case.  Suggestions are words exactly if the other capitalized
corrections lead to words and no entry near the word has an empty form.
-/

namespace Orthography

namespace Lexicon

variable {lexicon : Lexicon} {rules : List NormalizationRule} {limit : Nat}
  {token word correction : Text} {entry : Entry}

/-! ### Accepted words -/

/-- A word is accepted if it is known, or has blanks and consists of known words between them. -/
def Accepts (lexicon : Lexicon) (rules : List NormalizationRule) (word : Text) : Prop :=
  (lexicon.check rules word).value = true ∨ ' ' ∈ word ∧ lexicon.KnowsPieces rules word

/-- A word with known pieces is accepted. -/
theorem accepts_of_knowsPieces (hpieces : lexicon.KnowsPieces rules word) :
    lexicon.Accepts rules word := by
  by_cases hblank : ' ' ∈ word
  · exact .inr ⟨hblank, hpieces⟩
  · refine .inl (hpieces word ?_).2
    rw [List.splitOn_eq_singleton hblank]
    exact List.mem_singleton_self word

/-- The empty word is not accepted. -/
theorem not_accepts_nil : ¬ lexicon.Accepts rules [] := by
  rintro (hknown | ⟨hblank, -⟩)
  · cases hknown
  · cases hblank

/-! ### Accepted suggestions -/

/-- What is offered for the corrections of a word is accepted: no entry near it has an empty form,
and the capitalized corrections are accepted, where that does not follow from those that were
found. -/
structure OffersAccepted (lexicon : Lexicon) (rules : List NormalizationRule) (limit : Nat)
    (token : Text) : Prop where
  nonempty : ∀ base ∈ token.bases, ∀ entry, ¬ lexicon.Scans limit base entry []
  forms : ∀ base ∈ token.bases, ∀ entry correction, lexicon.Scans limit base entry correction →
    token.offeredAs correction ≠ correction → token.offeredAs correction ≠ token →
      lexicon.marks Settings.keepCase entry = true ∨
          (token.offeredAs correction).lowerFirst? ≠ some correction →
        lexicon.Accepts rules (token.offeredAs correction)
  rewrites : ∀ base ∈ token.bases, ∀ correction, lexicon.Rewrites rules limit base correction →
    token.offeredAs correction ≠ correction → token.offeredAs correction ≠ token →
      lexicon.Accepts rules (token.offeredAs correction)

/-- Without replacements, all that is offered is accepted if no form is empty and those that
capitalizing changes lower back to themselves and do not keep their case. -/
theorem offersAccepted_of_forall_forms (hreplacements : lexicon.grammar.replacements = [])
    (hforms : ∀ entry ∈ lexicon.dictionary.entries, ∀ form ∈ (lexicon.expand entry).value,
      form ≠ [] ∧ (form.upperFirst = form ∨
        lexicon.marks Settings.keepCase entry = false ∧
          form.upperFirst.lowerFirst? = some form)) :
    lexicon.OffersAccepted rules limit token := by
  constructor
  · rintro base - entry ⟨⟨hentry, -, -, hform⟩, -⟩
    exact (hforms entry hentry [] hform).1 rfl
  · rintro base - entry correction ⟨⟨hentry, -, -, hform⟩, -⟩ hchanged - hlost
    have hupper := (Text.offeredAs_eq_or token correction).resolve_left hchanged
    rw [hupper] at hchanged hlost
    obtain ⟨hcase, hback⟩ := (hforms entry hentry correction hform).2.resolve_left hchanged
    rw [hcase] at hlost
    exact absurd hback (hlost.resolve_left Bool.false_ne_true)
  · rintro base - correction ⟨⟨hvariant, -⟩, -⟩
    simp [hreplacements, Replacement.variants] at hvariant

/-- The form of an entry, as it is offered, is accepted. -/
theorem OffersAccepted.accepts_of_scans (hoffers : lexicon.OffersAccepted rules limit token)
    (hcoherent : lexicon.grammar.Coherent) {base : Text} (hbase : base ∈ token.bases)
    (hscans : lexicon.Scans limit base entry correction)
    (hother : token.offeredAs correction ≠ token) :
    lexicon.Accepts rules (token.offeredAs correction) := by
  obtain ⟨⟨hentry, hmay, -, hform⟩, -⟩ := id hscans
  obtain ⟨-, hword⟩ : lexicon.marks Settings.noSuggest entry = false ∧
      lexicon.marks Settings.onlyInCompound entry = false := by
    simpa [Source.mayOffer] using hmay
  by_cases hsame : token.offeredAs correction = correction
  · rw [hsame]
    refine .inl (check_of_mem_expand hcoherent hentry hword hform ?_)
    rintro rfl
    exact hoffers.nonempty base hbase entry hscans
  · by_cases hback : lexicon.marks Settings.keepCase entry = true ∨
        (token.offeredAs correction).lowerFirst? ≠ some correction
    · exact hoffers.forms base hbase entry correction hscans hsame hother hback
    · rw [not_or, Bool.not_eq_true, not_not] at hback
      exact .inl (check_of_lowerFirst?_mem_expand hcoherent hback.2 hentry hword hback.1 hform)

/-- A rewrite, as it is offered, is accepted. -/
theorem OffersAccepted.accepts_of_rewrites (hoffers : lexicon.OffersAccepted rules limit token)
    {base : Text} (hbase : base ∈ token.bases)
    (hrewrites : lexicon.Rewrites rules limit base correction)
    (hother : token.offeredAs correction ≠ token) :
    lexicon.Accepts rules (token.offeredAs correction) := by
  by_cases hsame : token.offeredAs correction = correction
  · rw [hsame]
    exact accepts_of_knowsPieces (isSpelled_iff_knowsPieces.mp hrewrites.1.2)
  · exact hoffers.rewrites base hbase correction hrewrites hsame hother

/-- All candidates are accepted exactly if what is offered is. -/
theorem forall_candidates_accepts_iff {options : RankingOptions}
    (hcoherent : lexicon.grammar.Coherent) (husual : options.sources = Source.usual) :
    (∀ word ∈ (lexicon.candidates rules options token).value.words, lexicon.Accepts rules word) ↔
      lexicon.OffersAccepted rules options.limit token := by
  constructor
  · intro hall
    refine ⟨fun base hbase entry hscans => ?_, ?_, ?_⟩
    · have hother : token ≠ [] := by
        rintro rfl
        exact hscans.2.2 (List.mem_singleton.mp hbase).symm
      have hoffered : token.offeredAs [] = [] :=
        (Text.offeredAs_eq_or token []).elim id id
      have hempty := hall _ ((mem_words_candidates husual).mpr
        ⟨⟨base, hbase, [], .inr ⟨entry, hscans⟩, hoffered.symm⟩, hother.symm⟩)
      exact not_accepts_nil hempty
    · intro base hbase entry correction hscans _ hother _
      exact hall _ ((mem_words_candidates husual).mpr
        ⟨⟨base, hbase, correction, .inr ⟨entry, hscans⟩, rfl⟩, hother⟩)
    · intro base hbase correction hrewrites _ hother
      exact hall _ ((mem_words_candidates husual).mpr
        ⟨⟨base, hbase, correction, .inl hrewrites, rfl⟩, hother⟩)
  · intro hoffers word hword
    obtain ⟨⟨base, hbase, correction, hfound, rfl⟩, hother⟩ :=
      (mem_words_candidates husual).mp hword
    rcases hfound with hrewrites | ⟨entry, hscans⟩
    · exact hoffers.accepts_of_rewrites hbase hrewrites hother
    · exact hoffers.accepts_of_scans hcoherent hbase hscans hother

end Lexicon

namespace Session

variable {session : Session} {lexicon : Lexicon} {token : Text}

/-- All words ever suggested have a property exactly if the word is known or all its candidates have
the property. -/
theorem forall_mem_answer_suggest_iff (hcurrent : ResultsCurrent session)
    (hlexicon : session.lexicon = .ok lexicon) {holds : Text → Prop} :
    (∀ limit words, session.answer (.suggest token limit) = .words (.ok words) →
        ∀ word ∈ words, holds word) ↔
      (lexicon.check session.normalization token).value = true ∨
        ∀ word ∈ (lexicon.candidates session.normalization session.rankingOptions
          token).value.words, holds word := by
  constructor
  · intro hall
    refine or_iff_not_imp_left.mpr fun hunknown word hword => ?_
    obtain ⟨limit, words, hwords, hsuggested⟩ :=
      (exists_mem_answer_suggest_iff hcurrent hlexicon).mpr ⟨by simpa using hunknown, hword⟩
    exact hall limit words hwords word hsuggested
  · intro hall limit words hwords word hword
    obtain ⟨hunknown, hcandidate⟩ :=
      (exists_mem_answer_suggest_iff hcurrent hlexicon).mp ⟨limit, words, hwords, hword⟩
    exact hall.resolve_left (by simp [hunknown]) word hcandidate

/-- A loaded session with the usual sources suggests accepted words only, however many suggestions
are asked for, exactly if the word is known or what is offered for its corrections is accepted. -/
theorem forall_suggest_accepts_iff {history : List Request}
    (hlexicon : (new.run history).lexicon = .ok lexicon)
    (husual : (new.run history).sources = Source.usual) :
    (∀ limit words, (new.run history).answer (.suggest token limit) = .words (.ok words) →
        ∀ word ∈ words, lexicon.Accepts (new.run history).normalization word) ↔
      (lexicon.check (new.run history).normalization token).value = true ∨
        lexicon.OffersAccepted (new.run history).normalization
          (new.run history).options.maxDistance token := by
  obtain ⟨affix, hread⟩ := exists_read_of_lexicon hlexicon
  rw [forall_mem_answer_suggest_iff (resultsCurrent_run resultsCurrent_new history) hlexicon,
    Lexicon.forall_candidates_accepts_iff (Grammar.coherent_read hread) husual]
  rfl

/-- The capitalized form of a stem that need not keep its case is accepted. -/
theorem forall_suggest_accepts_iff_capitalized :
    ∃ lexicon, (new.run [.setAffix "SFX BS Y 1\nSFX BS 0 s .\n".toList,
        .setDictionary "phone/BS\n".toList]).lexicon = .ok lexicon ∧
      (new.run [.setAffix "SFX BS Y 1\nSFX BS 0 s .\n".toList,
        .setDictionary "phone/BS\n".toList]).sources = Source.usual ∧
      ∀ limit words,
        (new.run [.setAffix "SFX BS Y 1\nSFX BS 0 s .\n".toList,
          .setDictionary "phone/BS\n".toList]).answer
            (.suggest "Phonse".toList limit) = .words (.ok words) →
          ∀ word ∈ words, lexicon.Accepts
            (new.run [.setAffix "SFX BS Y 1\nSFX BS 0 s .\n".toList,
              .setDictionary "phone/BS\n".toList]).normalization word := by
  let affix := "SFX BS Y 1\nSFX BS 0 s .\n".toList
  let grammar := (Grammar.read affix).value.toOption.getD .empty
  have hread : (Grammar.read affix).value = .ok grammar := by decide +kernel
  obtain ⟨hlexicon, -, hoptions⟩ := run_new_pair hread "phone/BS\n".toList
  have husual := congrArg (·.sources) hoptions
  refine ⟨_, hlexicon, husual, (forall_suggest_accepts_iff hlexicon husual).mpr (.inr ?_)⟩
  exact Lexicon.offersAccepted_of_forall_forms (by decide +kernel) (by decide +kernel)

/-- A form that keeps its case is suggested capitalized, and is not accepted so. -/
theorem suggest_not_accepted_of_keepCase :
    ∃ lexicon,
      (new.run [.setAffix "KEEPCASE KC\nSFX BS Y 1\nSFX BS 0 0 .\n".toList,
        .setDictionary "iphone/BSKC\n".toList]).lexicon = .ok lexicon ∧
      (new.run [.setAffix "KEEPCASE KC\nSFX BS Y 1\nSFX BS 0 0 .\n".toList,
        .setDictionary "iphone/BSKC\n".toList]).sources = Source.usual ∧
      (new.run [.setAffix "KEEPCASE KC\nSFX BS Y 1\nSFX BS 0 0 .\n".toList,
        .setDictionary "iphone/BSKC\n".toList]).answer (.suggest "Iphon".toList 5) =
          .words (.ok ["Iphone".toList]) ∧
      ¬ lexicon.Accepts
        (new.run [.setAffix "KEEPCASE KC\nSFX BS Y 1\nSFX BS 0 0 .\n".toList,
          .setDictionary "iphone/BSKC\n".toList]).normalization "Iphone".toList := by
  let affix := "KEEPCASE KC\nSFX BS Y 1\nSFX BS 0 0 .\n".toList
  let grammar := (Grammar.read affix).value.toOption.getD .empty
  let lexicon := (Lexicon.build grammar (Dictionary.read "iphone/BSKC\n".toList).value).value
  have hread : (Grammar.read affix).value = .ok grammar := by decide +kernel
  obtain ⟨hlexicon, hrules, hoptions⟩ := run_new_pair hread "iphone/BSKC\n".toList
  have hcoherent : lexicon.grammar.Coherent := Grammar.coherent_read hread
  have hunknown : (lexicon.check [] "Iphon".toList).value = false :=
    Lexicon.check_eq_false hcoherent (by decide +kernel) (by decide +kernel) (by decide +kernel)
  have hcandidates : (lexicon.candidates [] new.rankingOptions "Iphon".toList).value.words =
      ["Iphone".toList] := by decide +kernel
  have hranked := Candidates.words_rank_perm
    (lexicon.candidates [] new.rankingOptions "Iphon".toList).value new.rankingOptions.frequencies
  rw [hcandidates, List.perm_singleton] at hranked
  have hrejected : (lexicon.check [] "Iphone".toList).value = false :=
    Lexicon.check_eq_false hcoherent (by decide +kernel) (by decide +kernel) (by decide +kernel)
  refine ⟨lexicon, hlexicon, congrArg (·.sources) hoptions, ?_, ?_⟩
  · rw [answer_suggest (resultsCurrent_run resultsCurrent_new _) hlexicon, hrules, hoptions,
      hunknown, hranked]
    rfl
  · rw [hrules]
    rintro (hknown | ⟨hblank, -⟩)
    · rw [hrejected] at hknown
      cases hknown
    · exact absurd hblank (by decide +kernel)

end Session

end Orthography
