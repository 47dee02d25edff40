import Orthography.Lexicon
import Orthography.Proofs.Affix.Compound

/-!
# Compounds

The members that a lexicon fills into its compound rules are the stems that carry a code and are
long enough.  So a word is found to be a compound exactly if it can be cut into pieces, each equal
to such a stem up to case, as the codes and operators of some rule ask for
(`Lexicon.matchesCompound_iff`).
-/

namespace Orthography

open Character (foldKey)
open Pattern

/-! ### The words of a rule -/

namespace Grammar

variable {grammar : Grammar} {dictionary : Dictionary}

/-- A stem may stand for a code in compounds: the character of the code occurs among the codes of
its entry, and the stem is as long as members of compounds have to be. -/
def Eligible (grammar : Grammar) (dictionary : Dictionary) (code : Char) (stem : Text) : Prop :=
  ∃ entry ∈ dictionary.entries, entry.stem = stem ∧ code ∈ entry.codes.flatten ∧
    ∀ least, grammar.settings.compoundMin? = some least → least ≤ stem.length

/-- Some pieces of a word are what a part of a compound rule accounts for: as many as its operator
allows, each equal to an eligible stem of its code up to case. -/
structure Accounts (grammar : Grammar) (dictionary : Dictionary) (part : CompoundPart)
    (pieces : List Text) : Prop where
  allowed : part.times.Allows pieces.length
  stems : ∀ piece ∈ pieces, ∃ stem, grammar.Eligible dictionary part.code stem ∧
    piece.map foldKey = stem.map foldKey

/-- A word is a compound of some parts: every code has an eligible stem, and the word can be cut
into pieces for which the parts account in turn. -/
def IsCompound (grammar : Grammar) (dictionary : Dictionary) (parts : List CompoundPart)
    (word : Text) : Prop :=
  (∀ part ∈ parts, ∃ stem, grammar.Eligible dictionary part.code stem) ∧
    ∃ cut : List (List Text), word = cut.flatten.flatten ∧
      List.Forall₂ (grammar.Accounts dictionary) parts cut

/-- An entry carries a code of one character if that occurs among its codes. -/
theorem carries_singleton (entry : Entry) (code : Char) :
    entry.carries [code] = true ↔ code ∈ entry.codes.flatten := by
  simp only [Entry.carries, List.any_eq_true, Bool.or_eq_true, beq_iff_eq, decide_eq_true_eq,
    List.mem_flatten]
  refine exists_congr fun held => and_congr_right fun _ => ⟨?_, .inr⟩
  rintro (rfl | hcode)
  · exact List.mem_singleton_self code
  · exact hcode

/-- The members for a code that the grammar speaks of are the eligible stems. -/
theorem mem_members_iff {code : Char} {stem : Text} (hcode : [code] ∈ grammar.compoundCodes) :
    stem ∈ grammar.members dictionary [code] ↔ grammar.Eligible dictionary code stem := by
  rw [members, if_pos (List.contains_iff_mem.mpr hcode)]
  simp only [Eligible, List.mem_map, List.mem_filter, Bool.and_eq_true, carries_singleton]
  cases grammar.settings.compoundMin? with
  | none =>
      constructor
      · rintro ⟨entry, ⟨hentry, -, hcarried⟩, rfl⟩
        exact ⟨entry, hentry, rfl, hcarried, nofun⟩
      · rintro ⟨entry, hentry, rfl, hcarried, -⟩
        exact ⟨entry, ⟨hentry, rfl, hcarried⟩, rfl⟩
  | some least =>
      constructor
      · rintro ⟨entry, ⟨hentry, hlength, hcarried⟩, rfl⟩
        refine ⟨entry, hentry, rfl, hcarried, ?_⟩
        rintro _ ⟨⟩
        exact of_decide_eq_true hlength
      · rintro ⟨entry, hentry, rfl, hcarried, hlength⟩
        exact ⟨entry, ⟨hentry, decide_eq_true (hlength least rfl), hcarried⟩, rfl⟩

/-- The pieces for which a part accounts make up a word of its language. -/
theorem mem_language_iff {part : CompoundPart} {word : Text}
    (hcode : [part.code] ∈ grammar.compoundCodes) :
    word ∈ part.language (grammar.members dictionary) ↔
      ∃ pieces : List Text, word = pieces.flatten ∧ grammar.Accounts dictionary part pieces := by
  rw [CompoundPart.language, Times.mem_of_iff]
  refine exists_congr fun pieces => and_congr_right fun _ => ?_
  simp only [mem_alikeAny, mem_members_iff hcode, mem_alike]
  exact ⟨fun h => ⟨h.1, h.2⟩, fun h => ⟨h.1, h.2⟩⟩

/-- The words of the languages of some parts, one behind the other, are cut into their pieces. -/
theorem mem_prod_iff {parts : List CompoundPart} {word : Text}
    (hcodes : ∀ part ∈ parts, [part.code] ∈ grammar.compoundCodes) :
    word ∈ (parts.map (·.language (grammar.members dictionary))).prod ↔
      ∃ cut : List (List Text), word = cut.flatten.flatten ∧
        List.Forall₂ (grammar.Accounts dictionary) parts cut := by
  induction parts generalizing word with
  | nil => simp [Language.mem_one]
  | cons part parts ih =>
      obtain ⟨hcode, hcodes⟩ := List.forall_mem_cons.mp hcodes
      rw [List.map_cons, List.prod_cons, Language.mem_mul]
      constructor
      · rintro ⟨front, hfront, behind, hbehind, rfl⟩
        obtain ⟨pieces, rfl, hpieces⟩ := (mem_language_iff hcode).mp hfront
        obtain ⟨cut, rfl, hcut⟩ := (ih hcodes).mp hbehind
        exact ⟨pieces :: cut, by simp, .cons hpieces hcut⟩
      · rintro ⟨_, rfl, hcut⟩
        cases hcut with
        | cons hpieces hcut =>
            exact ⟨_, (mem_language_iff hcode).mpr ⟨_, rfl, hpieces⟩, _,
              (ih hcodes).mpr ⟨_, rfl, hcut⟩, by simp⟩

/-- A grammar that is read speaks of the codes of its rules' parts. -/
theorem mem_compoundCodes_of_read {affix : Text} (hread : (Grammar.read affix).value = .ok grammar)
    {rule : CompoundRule} (hrule : rule ∈ grammar.compoundRules) {parts : List CompoundPart}
    (hparts : rule.IsMadeOf parts) :
    ∀ part ∈ parts, [part.code] ∈ grammar.compoundCodes := by
  intro part hpart
  have hcode := hparts.mem_codes (isSolid_of_read hread rule hrule) hpart
  exact ((indexed_of_read hread).mem_iff _).mpr (.inl ⟨rule, hrule, hcode⟩)

/-- The matcher of a rule of an affix file, if it has one, matches the compounds of its parts. -/
theorem exists_compileCompound_iff {affix : Text}
    (hread : (Grammar.read affix).value = .ok grammar) {rule : CompoundRule}
    (hrule : rule ∈ grammar.compoundRules) {parts : List CompoundPart}
    (hparts : rule.IsMadeOf parts) (word : Text) :
    (∃ matcher, (grammar.compileCompound dictionary rule).value = some matcher ∧
        matcher.isMatch word = true) ↔ grammar.IsCompound dictionary parts word := by
  have hsolid := isSolid_of_read hread rule hrule
  have hcodes := mem_compoundCodes_of_read hread hrule hparts
  by_cases hsome : ∀ part ∈ parts, grammar.members dictionary [part.code] ≠ []
  · obtain ⟨matcher, hcompile, hmatch⟩ := CompoundRule.exists_compile hparts hsolid hsome
    have hvalue : (grammar.compileCompound dictionary rule).value = some matcher := by
      rw [compileCompound, hcompile]
      rfl
    have hmembers : ∀ part ∈ parts, ∃ stem, grammar.Eligible dictionary part.code stem := by
      intro part hpart
      obtain ⟨stem, hstem⟩ := List.exists_mem_of_ne_nil _ (hsome part hpart)
      exact ⟨stem, (mem_members_iff (hcodes part hpart)).mp hstem⟩
    rw [hvalue, IsCompound, and_iff_right hmembers, ← mem_prod_iff hcodes, ← hmatch]
    simp
  · push Not at hsome
    obtain ⟨part, hpart, hnone⟩ := hsome
    have hvalue : (grammar.compileCompound dictionary rule).value = none := by
      rw [compileCompound, CompoundRule.compile_eq_none hparts hsolid hpart hnone]
      rfl
    rw [hvalue]
    refine ⟨?_, ?_⟩
    · rintro ⟨matcher, hmatcher, -⟩
      cases hmatcher
    · rintro ⟨hmembers, -⟩
      obtain ⟨stem, hstem⟩ := hmembers part hpart
      have hmember := (mem_members_iff (hcodes part hpart)).mpr hstem
      rw [hnone] at hmember
      exact absurd hmember List.not_mem_nil

end Grammar

/-! ### Lexicons -/

namespace Lexicon

/-- A word is a compound if some rule has a matcher for it. -/
theorem matchesCompound_iff_exists_matcher {lexicon : Lexicon} {word : Text} :
    lexicon.matchesCompound word = true ↔ ∃ rule ∈ lexicon.grammar.compoundRules, ∃ matcher,
      (lexicon.grammar.compileCompound lexicon.dictionary rule).value = some matcher ∧
        matcher.isMatch word = true := by
  rw [matchesCompound, lexicon.compounds_eq, Grammar.compileCompounds, Logged.value_gather,
    List.any_eq_true]
  simp only [List.mem_filterMap, List.mem_map, exists_exists_and_eq_and]
  constructor
  · rintro ⟨matcher, ⟨rule, hrule, hmatcher⟩, hmatch⟩
    exact ⟨rule, hrule, matcher, hmatcher, hmatch⟩
  · rintro ⟨rule, hrule, matcher, hmatcher, hmatch⟩
    exact ⟨matcher, ⟨rule, hrule, hmatcher⟩, hmatch⟩

/-- Where the compound rules of an affix file are made of parts, a word is a compound exactly if it
is a compound of the parts of some rule. -/
theorem matchesCompound_iff {affix : Text} {lexicon : Lexicon}
    (hread : (Grammar.read affix).value = .ok lexicon.grammar)
    (hrules : ∀ rule ∈ lexicon.grammar.compoundRules, ∃ parts, rule.IsMadeOf parts) (word : Text) :
    lexicon.matchesCompound word = true ↔
      ∃ rule ∈ lexicon.grammar.compoundRules, ∃ parts, rule.IsMadeOf parts ∧
        lexicon.grammar.IsCompound lexicon.dictionary parts word := by
  rw [matchesCompound_iff_exists_matcher]
  constructor
  · rintro ⟨rule, hrule, hmatch⟩
    obtain ⟨parts, hparts⟩ := hrules rule hrule
    exact ⟨rule, hrule, parts, hparts,
      (Grammar.exists_compileCompound_iff hread hrule hparts word).mp hmatch⟩
  · rintro ⟨rule, hrule, parts, hparts, hcompound⟩
    exact ⟨rule, hrule,
      (Grammar.exists_compileCompound_iff hread hrule hparts word).mpr hcompound⟩

/-- A compound of two words in another case, of codes that stand inside others; a stem that is too
short for compounds makes none. -/
theorem matchesCompound_iff_recased :
    ∃ lexicon : Lexicon,
      (Grammar.read "COMPOUNDMIN 3\nCOMPOUNDRULE 1\nCOMPOUNDRULE a?b+\n".toList).value =
        .ok lexicon.grammar ∧
      (∀ rule ∈ lexicon.grammar.compoundRules, ∃ parts, rule.IsMadeOf parts) ∧
      lexicon.dictionary = (Dictionary.read "sun/aZ\nday/Nb\ngo/b\n".toList).value ∧
      lexicon.matchesCompound "SunDAYday".toList = true ∧
      ¬ lexicon.grammar.Eligible lexicon.dictionary 'b' "go".toList ∧
      lexicon.matchesCompound "SunGo".toList = false := by
  let affix := "COMPOUNDMIN 3\nCOMPOUNDRULE 1\nCOMPOUNDRULE a?b+\n".toList
  let grammar := (Grammar.read affix).value.toOption.getD .empty
  let dictionary := (Dictionary.read "sun/aZ\nday/Nb\ngo/b\n".toList).value
  let parts : List CompoundPart := [⟨'a', .atMostOnce⟩, ⟨'b', .atLeastOnce⟩]
  have hread : (Grammar.read affix).value = .ok grammar := by decide +kernel
  have hcompounds : grammar.compoundRules = [⟨"a?b+".toList⟩] := by decide +kernel
  have hparts : CompoundRule.IsMadeOf ⟨"a?b+".toList⟩ parts := ⟨by decide, by decide⟩
  have hrules : ∀ rule ∈ grammar.compoundRules, ∃ parts, rule.IsMadeOf parts :=
    hparts.forall_mem hcompounds
  have hentries : dictionary.entries = [⟨"sun".toList, [], ["aZ".toList]⟩,
      ⟨"day".toList, [], ["Nb".toList]⟩, ⟨"go".toList, [], ["b".toList]⟩] := by decide +kernel
  have hleast : grammar.settings.compoundMin? = some 3 := by decide +kernel
  have hsun : grammar.Eligible dictionary 'a' "sun".toList := by
    refine ⟨_, by rw [hentries]; exact List.mem_cons_self, rfl, by decide, ?_⟩
    rw [hleast]
    rintro _ ⟨⟩
    decide
  have hday : grammar.Eligible dictionary 'b' "day".toList := by
    refine ⟨_, by rw [hentries]; exact List.mem_cons_of_mem _ List.mem_cons_self, rfl,
      by decide, ?_⟩
    rw [hleast]
    rintro _ ⟨⟩
    decide
  have hgo : ¬ grammar.Eligible dictionary 'b' "go".toList := by
    rintro ⟨entry, -, -, -, hlong⟩
    exact absurd (hlong 3 hleast) (by decide)
  have hfirst : grammar.Accounts dictionary ⟨'a', .atMostOnce⟩ ["Sun".toList] :=
    ⟨Nat.le_refl 1, List.forall_mem_singleton.mpr ⟨_, hsun, by decide +kernel⟩⟩
  have hothers : grammar.Accounts dictionary ⟨'b', .atLeastOnce⟩ ["DAY".toList, "day".toList] :=
    ⟨Nat.le_succ 1, List.forall_mem_cons.mpr ⟨⟨_, hday, by decide +kernel⟩,
      List.forall_mem_singleton.mpr ⟨_, hday, rfl⟩⟩⟩
  have hcompound : grammar.IsCompound dictionary parts "SunDAYday".toList :=
    ⟨List.forall_mem_cons.mpr ⟨⟨_, hsun⟩, List.forall_mem_singleton.mpr ⟨_, hday⟩⟩,
      [["Sun".toList], ["DAY".toList, "day".toList]], by decide, .cons hfirst (.cons hothers .nil)⟩
  refine ⟨(build grammar dictionary).value, hread, hrules, rfl, ?_, hgo, by decide +kernel⟩
  exact (matchesCompound_iff hread hrules _).mpr
    ⟨_, hcompounds ▸ List.mem_singleton_self _, parts, hparts, hcompound⟩

end Lexicon

end Orthography
