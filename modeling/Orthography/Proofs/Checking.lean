import Orthography.Checking
import Orthography.Proofs.Reach.Prefilter

/-!
# Checking and expansion agree

Checking looks for an entry that gives a word: it passes over entries that could not, asks for the
word itself and stops at the first entry and the first form that will do.  Expansion lists all words
of an entry, each once.  Both say the same, so a word is known exactly if some entry that is
considered expands to it, as it is written, with its first letter lowered, or normalized, or if it
is a compound.
-/

namespace Orthography

namespace Lexicon

variable {lexicon : Lexicon} {rules : List NormalizationRule} {entry : Entry}
  {word lowered : Text} {mode : CaseMode}

/-- The derived words of an entry are the admitted forms by its codes. -/
theorem mem_derived :
    word ∈ (lexicon.derived entry).value ↔
      (∃ code ∈ ruleCodes entry, word ∈ (lexicon.grammar.formsByCode code entry.stem).value) ∧
        lexicon.admits entry word = true := by
  simp [derived, List.mem_filterMap, ← and_assoc, exists_and_right]

/-- An entry expands to its stem, if that stands alone, and to its derived words. -/
theorem mem_expand :
    word ∈ (lexicon.expand entry).value ↔
      (lexicon.standsAlone entry = true ∧ word = entry.stem) ∨
        word ∈ (lexicon.derived entry).value := by
  rw [expand, Logged.value_map, List.mem_eraseDups, List.mem_append]
  refine or_congr ?_ Iff.rfl
  split
  · rename_i halone
    simp [halone]
  · rename_i halone
    simp [halone]

/-- A bare entry derives nothing. -/
theorem not_mem_derived_of_isBare (hbare : entry.isBare = true) :
    word ∉ (lexicon.derived entry).value := by
  intro hderived
  obtain ⟨⟨code, hcode, -⟩, -⟩ := mem_derived.mp hderived
  have hcodes : entry.codes = [] := List.isEmpty_iff.mp hbare
  simp [ruleCodes, hcodes] at hcode

/-- An entry gives a word exactly if it expands to it: the test of roots, the entries passed over
and the first form that will do never change the answer. -/
theorem gives_iff_mem_expand (hcoherent : lexicon.grammar.Coherent) :
    (lexicon.gives word entry (Grammar.reachOf lexicon.grammar.reachTable entry)).value = true ↔
      word ∈ (lexicon.expand entry).value := by
  rw [mem_expand]
  unfold gives
  split
  · rename_i hstem
    obtain ⟨hsame, halone⟩ := Bool.and_eq_true_iff.mp hstem
    exact iff_of_true rfl (.inl ⟨halone, (beq_iff_eq.mp hsame).symm⟩)
  · rename_i hstem
    have hnot : ¬ (lexicon.standsAlone entry = true ∧ word = entry.stem) := by
      rintro ⟨halone, hsame⟩
      exact hstem (Bool.and_eq_true_iff.mpr ⟨beq_iff_eq.mpr hsame.symm, halone⟩)
    rw [or_iff_right hnot]
    split
    · rename_i hskipped
      refine iff_of_false (by simp) fun hderived => ?_
      obtain ⟨⟨code, hcode, hform⟩, hadmits⟩ := mem_derived.mp hderived
      have hcould : couldGive entry (Grammar.reachOf lexicon.grammar.reachTable entry) word =
          true :=
        couldGive_of_keeps (Grammar.keeps_reachOf hcoherent (List.mem_of_mem_filter hcode) hform)
      have hcarries : entry.isBare = false := by
        rw [Bool.eq_false_iff]
        exact fun hbare => not_mem_derived_of_isBare hbare hderived
      rw [hcould, hadmits, hcarries] at hskipped
      cases hskipped
    · rename_i hasked
      have hadmits : lexicon.admits entry word = true := by
        by_contra hrefused
        exact hasked (by simp [hrefused])
      rw [Logged.value_anyOf, List.any_eq_true, mem_derived, and_iff_left hadmits]
      refine exists_congr fun code => and_congr_right fun _ => ?_
      exact Grammar.derivesByCode_iff_mem_formsByCode

/-- Some entry gives a word exactly if an entry that is considered expands to it. -/
theorem givesWord_iff (hcoherent : lexicon.grammar.Coherent) :
    (lexicon.givesWord mode word).value = true ↔
      ∃ entry ∈ lexicon.dictionary.entries, lexicon.considers mode entry = true ∧
        word ∈ (lexicon.expand entry).value := by
  rw [givesWord, Logged.value_anyOf, stems_eq_map, List.any_map, List.any_eq_true]
  refine exists_congr fun entry => and_congr_right fun _ => ?_
  dsimp only [Function.comp_apply]
  split
  · rename_i hconsidered
    rw [gives_iff_mem_expand hcoherent, and_iff_right hconsidered]
  · rename_i hpassed
    exact iff_of_false (by simp) fun h => hpassed h.1

/-- As it is written, a word is looked up among the entries that are not for compounds only. -/
theorem considers_asWritten :
    lexicon.considers .asWritten entry = true ↔
      lexicon.marks Settings.onlyInCompound entry = false := by
  simp [considers]

/-- With its first letter lowered, a word is looked up among those that do not keep their case
either. -/
theorem considers_lowered :
    lexicon.considers .lowered entry = true ↔
      lexicon.marks Settings.onlyInCompound entry = false ∧
        lexicon.marks Settings.keepCase entry = false := by
  simp [considers]

/-- A word is looked up as it is written, as a compound, lowered, and normalized. -/
theorem check_iff_givesWord :
    (lexicon.check rules word).value = true ↔ word ≠ [] ∧
      ((lexicon.givesWord .asWritten word).value = true ∨ lexicon.matchesCompound word = true ∨
        (∃ lowered, word.lowerFirst? = some lowered ∧
          (lexicon.givesWord .lowered lowered).value = true) ∨
        ∃ rest, NormalizationRule.normalize rules word = .stripped rest ∧
          (lexicon.givesWord .asWritten rest).value = true) := by
  unfold check
  split
  · rename_i hempty
    exact iff_of_false Bool.false_ne_true fun h => h.1 (List.isEmpty_iff.mp hempty)
  · rename_i hsome
    rw [and_iff_right (by simpa using hsome)]
    simp only [Logged.value_orElse, Bool.or_eq_true, Logged.value_pure]
    refine or_congr Iff.rfl (or_congr Iff.rfl (or_congr ?_ ?_))
    · cases word.lowerFirst? <;> simp
    · cases NormalizationRule.normalize rules word <;> simp

/-- What an entry expands to is known, unless it is empty or the entry is for compounds only. -/
theorem check_of_mem_expand (hcoherent : lexicon.grammar.Coherent)
    (hentry : entry ∈ lexicon.dictionary.entries)
    (hword : lexicon.marks Settings.onlyInCompound entry = false)
    (hform : word ∈ (lexicon.expand entry).value) (hsome : word ≠ []) :
    (lexicon.check rules word).value = true := by
  have hgives : (lexicon.givesWord .asWritten word).value = true :=
    (givesWord_iff hcoherent).mpr ⟨entry, hentry, considers_asWritten.mpr hword, hform⟩
  rw [check, if_neg (by simpa using hsome), Logged.value_orElse, hgives, Bool.true_or]

/-- What lowers to a form of an entry is known, if the entry neither is for compounds only nor keeps
its case. -/
theorem check_of_lowerFirst?_mem_expand (hcoherent : lexicon.grammar.Coherent)
    (hlowered : word.lowerFirst? = some lowered) (hentry : entry ∈ lexicon.dictionary.entries)
    (hword : lexicon.marks Settings.onlyInCompound entry = false)
    (hcase : lexicon.marks Settings.keepCase entry = false)
    (hform : lowered ∈ (lexicon.expand entry).value) :
    (lexicon.check rules word).value = true := by
  have hgives : (lexicon.givesWord .lowered lowered).value = true :=
    (givesWord_iff hcoherent).mpr ⟨entry, hentry, considers_lowered.mpr ⟨hword, hcase⟩, hform⟩
  have hsome : word ≠ [] := by
    rintro rfl
    cases hlowered
  rw [check, if_neg (by simpa using hsome)]
  simp [hlowered, hgives]

/-- Without rules of normalization, a word is not known if no entry expands to it, it is no
compound, and no entry that is considered for its lowered form expands to that. -/
theorem check_eq_false (hcoherent : lexicon.grammar.Coherent)
    (hword : ∀ entry ∈ lexicon.dictionary.entries, word ∉ (lexicon.expand entry).value)
    (hcompound : lexicon.matchesCompound word = false)
    (hlowered : ∀ lowered ∈ word.lowerFirst?, ∀ entry ∈ lexicon.dictionary.entries,
      lexicon.considers .lowered entry = true → lowered ∉ (lexicon.expand entry).value) :
    (lexicon.check [] word).value = false := by
  have hwritten : (lexicon.givesWord .asWritten word).value = false := by
    rw [← Bool.not_eq_true, givesWord_iff hcoherent]
    rintro ⟨entry, hentry, -, hform⟩
    exact hword entry hentry hform
  rw [check]
  split
  · rfl
  · simp only [Logged.value_orElse, Logged.value_pure, hwritten, hcompound, Bool.false_or]
    split
    · rename_i lowered hlower
      have hgives : (lexicon.givesWord .lowered lowered).value = false := by
        rw [← Bool.not_eq_true, givesWord_iff hcoherent]
        rintro ⟨entry, hentry, hconsidered, hform⟩
        exact hlowered lowered hlower entry hentry hconsidered hform
      rw [hgives]
      rfl
    · rfl

/-- A word is known exactly if it is not empty and some entry expands to it that is not for
compounds only, or it is a compound, or some entry that neither is for compounds only nor keeps its
case expands to it with its first letter lowered, or some entry that is not for compounds only
expands to what normalization leaves of it. -/
theorem check_iff_exists_mem_expand {affix : Text}
    (hread : (Grammar.read affix).value = .ok lexicon.grammar) (rules : List NormalizationRule) :
    (lexicon.check rules word).value = true ↔ word ≠ [] ∧
      ((∃ entry ∈ lexicon.dictionary.entries,
          lexicon.marks Settings.onlyInCompound entry = false ∧
            word ∈ (lexicon.expand entry).value) ∨
        lexicon.matchesCompound word = true ∨
        (∃ lowered, word.lowerFirst? = some lowered ∧ ∃ entry ∈ lexicon.dictionary.entries,
          (lexicon.marks Settings.onlyInCompound entry = false ∧
            lexicon.marks Settings.keepCase entry = false) ∧
              lowered ∈ (lexicon.expand entry).value) ∨
        ∃ rest, NormalizationRule.normalize rules word = .stripped rest ∧
          ∃ entry ∈ lexicon.dictionary.entries,
            lexicon.marks Settings.onlyInCompound entry = false ∧
              rest ∈ (lexicon.expand entry).value) := by
  have hcoherent := Grammar.coherent_read hread
  unfold check
  split
  · rename_i hempty
    refine iff_of_false (by simp) fun h => h.1 (List.isEmpty_iff.mp hempty)
  · rename_i hsome
    rw [and_iff_right (by simpa using hsome)]
    simp only [Logged.value_orElse, Bool.or_eq_true, Logged.value_pure]
    refine or_congr ?_ (or_congr Iff.rfl (or_congr ?_ ?_))
    · simp only [givesWord_iff hcoherent, considers_asWritten]
    · cases word.lowerFirst? with
      | none => simp
      | some lowered => simp [givesWord_iff hcoherent, considers_lowered]
    · cases NormalizationRule.normalize rules word with
      | unchanged => simp
      | rejected => simp
      | stripped rest => simp [givesWord_iff hcoherent, considers_asWritten]

/-- A word with an upper-case letter is known because an entry expands to it with that letter
lowered, unless the entry keeps its case. -/
theorem check_iff_exists_mem_expand_lowered :
    ∃ lexicon : Lexicon,
      (Grammar.read "KEEPCASE KC\nSFX ED Y 1\nSFX ED [ey] ed .\n".toList).value =
        .ok lexicon.grammar ∧
      lexicon.dictionary = (Dictionary.read "pave/ED\nrate/EDKC\n".toList).value ∧
      lexicon.dictionary.entries.map (lexicon.marks Settings.keepCase) = [false, true] ∧
      (lexicon.check [] "Paved".toList).value = true ∧
      (lexicon.check [] "rated".toList).value = true ∧
      (lexicon.check [] "Rated".toList).value = false := by
  let affix := "KEEPCASE KC\nSFX ED Y 1\nSFX ED [ey] ed .\n".toList
  let grammar := (Grammar.read affix).value.toOption.getD .empty
  let lexicon := (build grammar (Dictionary.read "pave/ED\nrate/EDKC\n".toList).value).value
  have hread : (Grammar.read affix).value = .ok lexicon.grammar := by decide +kernel
  have hwritten : ∃ entry ∈ lexicon.dictionary.entries,
      lexicon.marks Settings.onlyInCompound entry = false ∧
        "rated".toList ∈ (lexicon.expand entry).value := by decide +kernel
  have hlowered : ∃ entry ∈ lexicon.dictionary.entries,
      (lexicon.marks Settings.onlyInCompound entry = false ∧
        lexicon.marks Settings.keepCase entry = false) ∧
          "paved".toList ∈ (lexicon.expand entry).value := by decide +kernel
  have hlower : Text.lowerFirst? "Paved".toList = some "paved".toList := by decide +kernel
  have hpaved : (lexicon.check [] "Paved".toList).value = true :=
    (check_iff_exists_mem_expand hread []).mpr
      ⟨by decide, .inr (.inr (.inl ⟨"paved".toList, hlower, hlowered⟩))⟩
  have hrated : (lexicon.check [] "rated".toList).value = true :=
    (check_iff_exists_mem_expand hread []).mpr ⟨by decide, .inl hwritten⟩
  have hkept : (lexicon.check [] "Rated".toList).value = false :=
    check_eq_false (Grammar.coherent_read hread) (by decide +kernel) (by decide +kernel)
      (by decide +kernel)
  exact ⟨lexicon, hread, rfl, by decide +kernel, hpaved, hrated, hkept⟩

end Lexicon

end Orthography
