import Orthography.Proofs.Checking
import Orthography.Proofs.Compounds

/-!
# Larger stem lists

A lexicon is within another if both have one grammar and the other has all its entries.  An entry
expands to the same words in both, and a compound finds its members in the larger too, where a rule
without members may have some.  So a word that the smaller lexicon knows is known to the larger
(`Lexicon.Within.check`), and what is known depends on the set of entries alone
(`Lexicon.check_mono`).
-/

namespace Orthography

open Character (foldKey)

namespace Grammar

variable {grammar : Grammar} {fewer more : Dictionary} {parts : List CompoundPart}
  {part : CompoundPart} {pieces : List Text} {code : Char} {stem word : Text}

/-- A stem stays eligible when entries are added. -/
theorem Eligible.mono (hentries : fewer.entries ⊆ more.entries)
    (heligible : grammar.Eligible fewer code stem) : grammar.Eligible more code stem := by
  obtain ⟨entry, hentry, hstem⟩ := heligible
  exact ⟨entry, hentries hentry, hstem⟩

/-- What a part accounts for, it accounts for when entries are added. -/
theorem Accounts.mono (hentries : fewer.entries ⊆ more.entries)
    (haccounts : grammar.Accounts fewer part pieces) : grammar.Accounts more part pieces where
  allowed := haccounts.allowed
  stems := by
    intro piece hpiece
    obtain ⟨stem, heligible, halike⟩ := haccounts.stems piece hpiece
    exact ⟨stem, heligible.mono hentries, halike⟩

/-- A compound stays one when entries are added: its codes keep their stems and its cut stays. -/
theorem IsCompound.mono (hentries : fewer.entries ⊆ more.entries)
    (hcompound : grammar.IsCompound fewer parts word) : grammar.IsCompound more parts word := by
  obtain ⟨hmembers, cut, hword, hcut⟩ := hcompound
  refine ⟨fun part hpart => ?_, cut, hword, hcut.imp fun _ _ => Accounts.mono hentries⟩
  obtain ⟨stem, heligible⟩ := hmembers part hpart
  exact ⟨stem, heligible.mono hentries⟩

end Grammar

namespace Lexicon

/-- One lexicon is within another: they have the same grammar, and its entries are among those of
the other. -/
structure Within (fewer more : Lexicon) : Prop where
  grammar_eq : fewer.grammar = more.grammar
  entries : fewer.dictionary.entries ⊆ more.dictionary.entries

/-- Two lexicons have the same grammar and the same set of entries, in any order and with any
repetitions. -/
structure Reordered (first second : Lexicon) : Prop where
  grammar_eq : first.grammar = second.grammar
  mem_entries : ∀ entry, entry ∈ first.dictionary.entries ↔ entry ∈ second.dictionary.entries

variable {fewer more first second : Lexicon} {rules : List NormalizationRule} {affix word : Text}
  {mode : CaseMode}

namespace Within

/-- The marks of an entry are those of the grammar. -/
theorem marks_eq (hwithin : fewer.Within more) (setting : Text) (entry : Entry) :
    fewer.marks setting entry = more.marks setting entry := by
  rw [marks, marks, hwithin.grammar_eq]

/-- Which entries are considered is for the grammar to say. -/
theorem considers_eq (hwithin : fewer.Within more) (mode : CaseMode) (entry : Entry) :
    fewer.considers mode entry = more.considers mode entry := by
  simp only [considers, hwithin.marks_eq]

/-- An entry expands to the same words, whatever other entries there are. -/
theorem expand_eq (hwithin : fewer.Within more) (entry : Entry) :
    fewer.expand entry = more.expand entry := by
  have hadmits : fewer.admits entry = more.admits entry := by
    funext form
    simp only [admits, hwithin.marks_eq]
  have hderived : fewer.derived entry = more.derived entry := by
    rw [derived, derived, hadmits, hwithin.grammar_eq]
  rw [expand, expand, hderived]
  rfl

/-- A word that an entry gives is given among more entries. -/
theorem givesWord (hwithin : fewer.Within more) (hcoherent : more.grammar.Coherent)
    (hgives : (fewer.givesWord mode word).value = true) :
    (more.givesWord mode word).value = true := by
  obtain ⟨entry, hentry, hconsidered, hform⟩ :=
    (givesWord_iff (hwithin.grammar_eq ▸ hcoherent)).mp hgives
  rw [hwithin.considers_eq] at hconsidered
  rw [hwithin.expand_eq] at hform
  exact (givesWord_iff hcoherent).mpr ⟨entry, hwithin.entries hentry, hconsidered, hform⟩

/-- A compound stays one among more entries, where the rules are made of parts. -/
theorem matchesCompound (hwithin : fewer.Within more)
    (hread : (Grammar.read affix).value = .ok more.grammar)
    (hrules : ∀ rule ∈ more.grammar.compoundRules, ∃ parts, rule.IsMadeOf parts)
    (hcompound : fewer.matchesCompound word = true) : more.matchesCompound word = true := by
  obtain ⟨rule, hrule, hmatch⟩ := matchesCompound_iff_exists_matcher.mp hcompound
  rw [hwithin.grammar_eq] at hrule hmatch
  obtain ⟨parts, hparts⟩ := hrules rule hrule
  rw [Grammar.exists_compileCompound_iff hread hrule hparts] at hmatch
  exact matchesCompound_iff_exists_matcher.mpr ⟨rule, hrule,
    (Grammar.exists_compileCompound_iff hread hrule hparts word).mpr
      (hmatch.mono hwithin.entries)⟩

/-- A word that is known stays known among more entries. -/
theorem check (hwithin : fewer.Within more)
    (hread : (Grammar.read affix).value = .ok more.grammar)
    (hrules : ∀ rule ∈ more.grammar.compoundRules, ∃ parts, rule.IsMadeOf parts)
    (hknown : (fewer.check rules word).value = true) : (more.check rules word).value = true := by
  have hcoherent := Grammar.coherent_read hread
  obtain ⟨hsome, hways⟩ := check_iff_givesWord.mp hknown
  refine check_iff_givesWord.mpr ⟨hsome, ?_⟩
  rcases hways with hgives | hcompound | ⟨lowered, hlowered, hgives⟩ | ⟨rest, hrest, hgives⟩
  · exact .inl (hwithin.givesWord hcoherent hgives)
  · exact .inr (.inl (hwithin.matchesCompound hread hrules hcompound))
  · exact .inr (.inr (.inl ⟨lowered, hlowered, hwithin.givesWord hcoherent hgives⟩))
  · exact .inr (.inr (.inr ⟨rest, hrest, hwithin.givesWord hcoherent hgives⟩))

end Within

namespace Reordered

/-- Each of two reordered lexicons is within the other. -/
theorem within (hreordered : first.Reordered second) : first.Within second :=
  ⟨hreordered.grammar_eq, fun entry => (hreordered.mem_entries entry).mp⟩

/-- Reordering can be undone. -/
theorem symm (hreordered : first.Reordered second) : second.Reordered first :=
  ⟨hreordered.grammar_eq.symm, fun entry => (hreordered.mem_entries entry).symm⟩

/-- Reordered lexicons know the same words. -/
theorem check_eq (hreordered : first.Reordered second)
    (hread : (Grammar.read affix).value = .ok first.grammar)
    (hrules : ∀ rule ∈ first.grammar.compoundRules, ∃ parts, rule.IsMadeOf parts)
    (rules : List NormalizationRule) (word : Text) :
    (first.check rules word).value = (second.check rules word).value := by
  have hsame := hreordered.grammar_eq
  exact Bool.eq_iff_iff.mpr ⟨hreordered.within.check (hsame ▸ hread) (hsame ▸ hrules),
    hreordered.symm.within.check hread hrules⟩

end Reordered

/-- With one grammar, what is known by some entries is known by more, and the same set of entries,
in any order and with any repetitions, knows the same words. -/
theorem check_mono {grammar : Grammar} (hread : (Grammar.read affix).value = .ok grammar)
    (hrules : ∀ rule ∈ grammar.compoundRules, ∃ parts, rule.IsMadeOf parts)
    (rules : List NormalizationRule) (word : Text) :
    (∀ fewer more : Dictionary, (∀ entry ∈ fewer.entries, entry ∈ more.entries) →
      ((build grammar fewer).value.check rules word).value = true →
        ((build grammar more).value.check rules word).value = true) ∧
      ∀ first second : Dictionary, (∀ entry, entry ∈ first.entries ↔ entry ∈ second.entries) →
        ((build grammar first).value.check rules word).value =
          ((build grammar second).value.check rules word).value := by
  constructor
  · intro fewer more hentries
    have hwithin : (build grammar fewer).value.Within (build grammar more).value :=
      ⟨rfl, hentries⟩
    exact hwithin.check hread hrules
  · intro first second hentries
    have hreordered : (build grammar first).value.Reordered (build grammar second).value :=
      ⟨rfl, hentries⟩
    exact hreordered.check_eq hread hrules rules word

/-- A compound of two entries is known with more entries, in another order and one of them twice. -/
theorem check_mono_compound :
    ∃ grammar : Grammar,
      (Grammar.read "COMPOUNDRULE 1\nCOMPOUNDRULE X*Y\n".toList).value = .ok grammar ∧
      (∀ rule ∈ grammar.compoundRules, ∃ parts, rule.IsMadeOf parts) ∧
      ∃ fewer more : Dictionary,
        fewer = (Dictionary.read "foot/X\nball/Y\n".toList).value ∧
        more = (Dictionary.read "ball/Y\nhand/X\nfoot/X\nball/Y\n".toList).value ∧
        (∀ entry ∈ fewer.entries, entry ∈ more.entries) ∧
        ((build grammar fewer).value.check [] "Football".toList).value = true ∧
        ((build grammar more).value.check [] "Football".toList).value = true := by
  let affix := "COMPOUNDRULE 1\nCOMPOUNDRULE X*Y\n".toList
  let grammar := (Grammar.read affix).value.toOption.getD .empty
  let fewer := (Dictionary.read "foot/X\nball/Y\n".toList).value
  let more := (Dictionary.read "ball/Y\nhand/X\nfoot/X\nball/Y\n".toList).value
  have hread : (Grammar.read affix).value = .ok grammar := by decide +kernel
  have hcompounds : grammar.compoundRules = [⟨"X*Y".toList⟩] := by decide +kernel
  have hparts : CompoundRule.IsMadeOf ⟨"X*Y".toList⟩ [⟨'X', .anyNumber⟩, ⟨'Y', .once⟩] :=
    ⟨by decide, by decide⟩
  have hrules : ∀ rule ∈ grammar.compoundRules, ∃ parts, rule.IsMadeOf parts :=
    hparts.forall_mem hcompounds
  have hentries : ∀ entry ∈ fewer.entries, entry ∈ more.entries := by decide +kernel
  have hknown : ((build grammar fewer).value.check [] "Football".toList).value = true := by
    decide +kernel
  exact ⟨grammar, hread, hrules, fewer, more, rfl, rfl, hentries, hknown,
    (check_mono hread hrules [] _).1 fewer more hentries hknown⟩

end Lexicon

end Orthography
