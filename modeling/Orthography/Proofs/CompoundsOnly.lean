import Orthography.Proofs.Checking
import Orthography.Proofs.Compounds

/-!
# Stems for compounds only

Looking for a word among the entries passes over those that are for compounds only; matching it
against the compound rules does not ask for the mark.  A rule may be content with a single piece,
and then a stem for compounds only is a word by itself.  Where no other entry gives a word and it is
not made of several stems, this is the only way in which it is known
(`Lexicon.check_iff_fillsAlone`).
-/

namespace Orthography

open Character (foldKey)

/-! ### Cuts with a single piece -/

section Cuts

variable {α β : Type} {R : α → List β → Prop} {parts : List α} {piece : β}

/-- Parts account for no piece at all if each of them does without one. -/
theorem exists_flatten_eq_nil_iff :
    (∃ cut : List (List β), cut.flatten = [] ∧ List.Forall₂ R parts cut) ↔
      ∀ part ∈ parts, R part [] := by
  induction parts with
  | nil => simp
  | cons part parts ih =>
      rw [List.forall_mem_cons, ← ih]
      constructor
      · rintro ⟨_, hnone, hcut⟩
        cases hcut with
        | @cons _ pieces _ cut hpart hcut =>
            obtain ⟨rfl, hnone⟩ := List.append_eq_nil_iff.mp hnone
            exact ⟨hpart, cut, hnone, hcut⟩
      · rintro ⟨hpart, cut, hnone, hcut⟩
        exact ⟨[] :: cut, hnone, .cons hpart hcut⟩

/-- Parts account for a single piece if one of them does and the others do without. -/
theorem exists_flatten_eq_singleton_iff :
    (∃ cut : List (List β), cut.flatten = [piece] ∧ List.Forall₂ R parts cut) ↔
      ∃ before part after, parts = before ++ part :: after ∧ R part [piece] ∧
        ∀ other ∈ before ++ after, R other [] := by
  induction parts with
  | nil => simp
  | cons first parts ih =>
      constructor
      · rintro ⟨_, hone, hcut⟩
        cases hcut with
        | @cons _ pieces _ cut hfirst hcut =>
            rcases List.append_eq_singleton_iff.mp hone with ⟨rfl, hone⟩ | ⟨rfl, hnone⟩
            · obtain ⟨before, part, after, rfl, hpart, hothers⟩ := ih.mp ⟨cut, hone, hcut⟩
              exact ⟨first :: before, part, after, rfl, hpart,
                List.forall_mem_cons.mpr ⟨hfirst, hothers⟩⟩
            · exact ⟨[], first, parts, rfl, hfirst,
                exists_flatten_eq_nil_iff.mp ⟨cut, hnone, hcut⟩⟩
      · rintro ⟨before, part, after, hparts, hpart, hothers⟩
        cases before with
        | nil =>
            obtain ⟨rfl, rfl⟩ := List.cons.inj hparts
            obtain ⟨cut, hnone, hcut⟩ := exists_flatten_eq_nil_iff.mpr hothers
            exact ⟨[piece] :: cut, by rw [List.flatten_cons, hnone]; rfl, .cons hpart hcut⟩
        | cons other before =>
            obtain ⟨rfl, rfl⟩ := List.cons.inj hparts
            obtain ⟨hfirst, hothers⟩ := List.forall_mem_cons.mp hothers
            obtain ⟨cut, hone, hcut⟩ := ih.mpr ⟨before, part, after, rfl, hpart, hothers⟩
            exact ⟨[] :: cut, hone, .cons hfirst hcut⟩

end Cuts

/-! ### Joined stems -/

namespace Dictionary

variable {dictionary : Dictionary} {word : Text}

/-- Two or more stems, one behind the other, are a word up to case. -/
def Joins (dictionary : Dictionary) (word : Text) : Prop :=
  ∃ joined : List Entry, 2 ≤ joined.length ∧ (∀ entry ∈ joined, entry ∈ dictionary.entries) ∧
    word.map foldKey = (joined.flatMap (·.stem)).map foldKey

/-- Pieces that are stems up to case are joined stems. -/
theorem exists_joined {pieces : List Text}
    (hpieces : ∀ piece ∈ pieces, ∃ entry ∈ dictionary.entries,
      piece.map foldKey = entry.stem.map foldKey) :
    ∃ joined : List Entry, joined.length = pieces.length ∧
      (∀ entry ∈ joined, entry ∈ dictionary.entries) ∧
      pieces.flatten.map foldKey = (joined.flatMap (·.stem)).map foldKey := by
  induction pieces with
  | nil => exact ⟨[], rfl, nofun, rfl⟩
  | cons piece pieces ih =>
      obtain ⟨⟨entry, hentry, halike⟩, hrest⟩ := List.forall_mem_cons.mp hpieces
      obtain ⟨joined, hlength, hjoined, hword⟩ := ih hrest
      refine ⟨entry :: joined, congrArg (· + 1) hlength,
        List.forall_mem_cons.mpr ⟨hentry, hjoined⟩, ?_⟩
      rw [List.flatten_cons, List.map_append, halike, hword, List.flatMap_cons, List.map_append]

/-- Stems that are longer than half a word are not joined to it. -/
theorem not_joins_of_length
    (hlength : ∀ entry ∈ dictionary.entries, word.length < 2 * entry.stem.length) :
    ¬ dictionary.Joins word := by
  rintro ⟨joined, htwo, hjoined, hword⟩
  match joined with
  | first :: second :: rest =>
      have hfirst := hlength first (hjoined first List.mem_cons_self)
      have hsecond := hlength second (hjoined second (List.mem_cons_of_mem _ List.mem_cons_self))
      have hsum := congrArg List.length hword
      simp only [List.length_map, List.flatMap_cons, List.length_append] at hsum
      omega

end Dictionary

/-! ### Rules that are content with one piece -/

namespace Grammar

variable {grammar : Grammar} {dictionary : Dictionary} {parts : List CompoundPart}
  {stem word : Text}

/-- A stem fills a rule alone: it may stand for one of the codes, the other parts do without a
piece, and no code is without an eligible stem. -/
structure FillsAlone (grammar : Grammar) (dictionary : Dictionary) (parts : List CompoundPart)
    (stem : Text) : Prop where
  members : ∀ part ∈ parts, ∃ stem, grammar.Eligible dictionary part.code stem
  alone : ∃ before part after, parts = before ++ part :: after ∧
    grammar.Eligible dictionary part.code stem ∧
      ∀ other ∈ before ++ after, other.times.Allows 0

/-- A code may always account for one piece. -/
theorem allows_one (times : Times) : times.Allows 1 := by
  cases times with
  | once => rfl
  | anyNumber => trivial
  | atLeastOnce => exact Nat.le_refl 1
  | atMostOnce => exact Nat.le_refl 1

/-- A part accounts for one piece if that is an eligible stem up to case. -/
theorem accounts_singleton_iff {part : CompoundPart} :
    grammar.Accounts dictionary part [word] ↔
      ∃ stem, grammar.Eligible dictionary part.code stem ∧ word.map foldKey = stem.map foldKey :=
  ⟨fun haccounts => haccounts.stems word List.mem_cons_self,
    fun hstem => ⟨allows_one _, List.forall_mem_singleton.mpr hstem⟩⟩

/-- A part accounts for no piece if it does without one. -/
theorem accounts_nil_iff {part : CompoundPart} :
    grammar.Accounts dictionary part [] ↔ part.times.Allows 0 :=
  ⟨fun haccounts => haccounts.allowed, fun hallows => ⟨hallows, List.forall_mem_nil _⟩⟩

/-- Every piece of a cut is the stem of an entry up to case. -/
theorem exists_entry_of_mem_cut {cut : List (List Text)}
    (hcut : List.Forall₂ (grammar.Accounts dictionary) parts cut) :
    ∀ piece ∈ cut.flatten, ∃ entry ∈ dictionary.entries,
      piece.map foldKey = entry.stem.map foldKey := by
  induction hcut with
  | nil => exact List.forall_mem_nil _
  | cons haccounts _ ih =>
      rw [List.flatten_cons]
      refine List.forall_mem_append.mpr ⟨fun piece hpiece => ?_, ih⟩
      obtain ⟨_, ⟨entry, hentry, rfl, -⟩, halike⟩ := haccounts.stems piece hpiece
      exact ⟨entry, hentry, halike⟩

/-- A word that is not joined of several stems is a compound if it is a stem, up to case, that fills
the rule alone. -/
theorem isCompound_iff_fillsAlone (hsome : word ≠ []) (hjoins : ¬ dictionary.Joins word) :
    grammar.IsCompound dictionary parts word ↔
      ∃ stem, word.map foldKey = stem.map foldKey ∧ grammar.FillsAlone dictionary parts stem := by
  have hone : (∃ cut : List (List Text), word = cut.flatten.flatten ∧
        List.Forall₂ (grammar.Accounts dictionary) parts cut) ↔
      ∃ cut : List (List Text), cut.flatten = [word] ∧
        List.Forall₂ (grammar.Accounts dictionary) parts cut := by
    refine exists_congr fun cut => and_congr_left fun hcut => ⟨fun hword => ?_, fun hword => ?_⟩
    · match hpieces : cut.flatten with
      | [] => exact absurd (hword.trans (congrArg List.flatten hpieces)) hsome
      | [piece] => simp [hword, hpieces]
      | first :: second :: rest =>
          obtain ⟨joined, hlength, hjoined, halike⟩ :=
            Dictionary.exists_joined (exists_entry_of_mem_cut hcut)
          have htwo : 2 ≤ cut.flatten.length := by simp [hpieces]
          exact absurd ⟨joined, hlength ▸ htwo, hjoined, hword ▸ halike⟩ hjoins
    · simp [hword]
  rw [IsCompound, hone, exists_flatten_eq_singleton_iff]
  simp only [accounts_singleton_iff, accounts_nil_iff]
  constructor
  · rintro ⟨hmembers, before, part, after, hparts, ⟨stem, heligible, halike⟩, hothers⟩
    exact ⟨stem, halike, hmembers, before, part, after, hparts, heligible, hothers⟩
  · rintro ⟨stem, halike, hmembers, before, part, after, hparts, heligible, hothers⟩
    exact ⟨hmembers, before, part, after, hparts, ⟨stem, heligible, halike⟩, hothers⟩

/-- No stem fills a rule alone that has two codes or more and no operators. -/
theorem not_fillsAlone_of_no_operators {rule : CompoundRule} (hrule : rule.IsMadeOf parts)
    (hplain : ∀ c ∈ rule.source, c ∉ CompoundRule.operators) (hcodes : 2 ≤ rule.source.length) :
    ¬ grammar.FillsAlone dictionary parts stem := by
  have honce : ∀ part ∈ parts, part.times = .once := by
    intro part hpart
    have hsign : ∀ c ∈ part.times.sign, c ∉ CompoundRule.operators := fun c hc =>
      hplain c (by
        rw [hrule.source]
        exact List.mem_flatMap.mpr ⟨part, hpart, List.mem_cons_of_mem _ hc⟩)
    cases htimes : part.times with
    | once => rfl
    | anyNumber => exact absurd (by decide) (hsign '*' (by simp [htimes, Times.sign]))
    | atLeastOnce => exact absurd (by decide) (hsign '+' (by simp [htimes, Times.sign]))
    | atMostOnce => exact absurd (by decide) (hsign '?' (by simp [htimes, Times.sign]))
  rintro ⟨-, before, part, after, rfl, -, hothers⟩
  have hnone : before ++ after = [] := by
    refine List.eq_nil_iff_forall_not_mem.mpr fun other hother => ?_
    have hmem : other ∈ before ++ part :: after :=
      ((List.sublist_cons_self part after).append_left before).mem hother
    have hallows := hothers other hother
    rw [honce other hmem] at hallows
    exact Nat.zero_ne_one hallows
  obtain ⟨rfl, rfl⟩ := List.append_eq_nil_iff.mp hnone
  have hlength : rule.source.length = 1 := by
    simp [hrule.source, CompoundPart.written, honce part (by simp), Times.sign]
  omega

end Grammar

/-! ### Words for compounds only -/

namespace Lexicon

variable {lexicon : Lexicon} {word : Text}

/-- A word is for compounds only: the entries whose stem it is up to case are marked so, no other
entry gives it or its lowered form, and it is not joined of several stems. -/
structure ForCompoundsOnly (lexicon : Lexicon) (word : Text) : Prop where
  marked : ∀ entry ∈ lexicon.dictionary.entries, word.map foldKey = entry.stem.map foldKey →
    lexicon.marks Settings.onlyInCompound entry = true
  not_given : ∀ entry ∈ lexicon.dictionary.entries,
    lexicon.marks Settings.onlyInCompound entry = false →
      word ∉ (lexicon.expand entry).value ∧
        ∀ lowered ∈ word.lowerFirst?, lowered ∉ (lexicon.expand entry).value
  not_joined : ¬ lexicon.dictionary.Joins word

/-- Without normalization such a word is known only as a compound. -/
theorem ForCompoundsOnly.check_iff_matchesCompound (honly : lexicon.ForCompoundsOnly word)
    (hcoherent : lexicon.grammar.Coherent) :
    (lexicon.check [] word).value = true ↔ word ≠ [] ∧ lexicon.matchesCompound word = true := by
  rw [check_iff_givesWord]
  refine and_congr_right fun _ => ⟨?_, fun hcompound => .inr (.inl hcompound)⟩
  rintro (hgives | hcompound | ⟨lowered, hlowered, hgives⟩ | ⟨rest, hrest, -⟩)
  · obtain ⟨entry, hentry, hconsidered, hform⟩ := (givesWord_iff hcoherent).mp hgives
    have hnot := honly.not_given entry hentry (considers_asWritten.mp hconsidered)
    exact absurd hform hnot.1
  · exact hcompound
  · obtain ⟨entry, hentry, hconsidered, hform⟩ := (givesWord_iff hcoherent).mp hgives
    have hnot := honly.not_given entry hentry (considers_lowered.mp hconsidered).1
    exact absurd hform (hnot.2 lowered hlowered)
  · cases hrest

/-- Without normalization, a word for compounds only is known exactly if one of the marked stems
that it is up to case fills a compound rule alone. -/
theorem check_iff_fillsAlone {affix : Text}
    (hread : (Grammar.read affix).value = .ok lexicon.grammar)
    (hrules : ∀ rule ∈ lexicon.grammar.compoundRules, ∃ parts, rule.IsMadeOf parts)
    (honly : lexicon.ForCompoundsOnly word) :
    (lexicon.check [] word).value = true ↔ word ≠ [] ∧
      ∃ entry ∈ lexicon.dictionary.entries,
        lexicon.marks Settings.onlyInCompound entry = true ∧
        word.map foldKey = entry.stem.map foldKey ∧
        ∃ rule ∈ lexicon.grammar.compoundRules, ∃ parts, rule.IsMadeOf parts ∧
          lexicon.grammar.FillsAlone lexicon.dictionary parts entry.stem := by
  rw [honly.check_iff_matchesCompound (Grammar.coherent_read hread),
    matchesCompound_iff_exists_matcher]
  refine and_congr_right fun hsome => ⟨?_, ?_⟩
  · rintro ⟨rule, hrule, hmatch⟩
    obtain ⟨parts, hparts⟩ := hrules rule hrule
    rw [Grammar.exists_compileCompound_iff hread hrule hparts,
      Grammar.isCompound_iff_fillsAlone hsome honly.not_joined] at hmatch
    obtain ⟨stem, halike, hfills⟩ := hmatch
    obtain ⟨-, -, -, -, ⟨entry, hentry, rfl, -⟩, -⟩ := hfills.alone
    exact ⟨entry, hentry, honly.marked entry hentry halike, halike, rule, hrule, parts, hparts,
      hfills⟩
  · rintro ⟨entry, -, -, halike, rule, hrule, parts, hparts, hfills⟩
    have hcompound := (Grammar.isCompound_iff_fillsAlone hsome honly.not_joined).mpr
      ⟨entry.stem, halike, hfills⟩
    exact ⟨rule, hrule,
      (Grammar.exists_compileCompound_iff hread hrule hparts word).mpr hcompound⟩

/-- A stem for compounds only is not known where the rule has two codes and no operators. -/
theorem check_iff_fillsAlone_two_codes :
    ∃ lexicon : Lexicon,
      (Grammar.read "ONLYINCOMPOUND OC\nCOMPOUNDRULE 1\nCOMPOUNDRULE XY\n".toList).value =
        .ok lexicon.grammar ∧
      (∀ rule ∈ lexicon.grammar.compoundRules, ∃ parts, rule.IsMadeOf parts) ∧
      lexicon.dictionary = (Dictionary.read "foot/OCX\nball/Y\n".toList).value ∧
      lexicon.ForCompoundsOnly "foot".toList ∧
      ¬ (lexicon.check [] "foot".toList).value = true := by
  let affix := "ONLYINCOMPOUND OC\nCOMPOUNDRULE 1\nCOMPOUNDRULE XY\n".toList
  let grammar := (Grammar.read affix).value.toOption.getD .empty
  let lexicon := (build grammar (Dictionary.read "foot/OCX\nball/Y\n".toList).value).value
  have hread : (Grammar.read affix).value = .ok lexicon.grammar := by decide +kernel
  have hcompounds : lexicon.grammar.compoundRules = [⟨"XY".toList⟩] := by decide +kernel
  have hparts : CompoundRule.IsMadeOf ⟨"XY".toList⟩ [⟨'X', .once⟩, ⟨'Y', .once⟩] :=
    ⟨by decide, by decide⟩
  have hrules : ∀ rule ∈ lexicon.grammar.compoundRules, ∃ parts, rule.IsMadeOf parts :=
    hparts.forall_mem hcompounds
  have honly : lexicon.ForCompoundsOnly "foot".toList :=
    ⟨by decide +kernel, by decide +kernel, Dictionary.not_joins_of_length (by decide +kernel)⟩
  refine ⟨lexicon, hread, hrules, rfl, honly, ?_⟩
  rw [check_iff_fillsAlone hread hrules honly]
  rintro ⟨-, entry, -, -, -, rule, hrule, parts, hmade, hfills⟩
  rw [hcompounds, List.mem_singleton] at hrule
  subst hrule
  exact Grammar.not_fillsAlone_of_no_operators hmade (by simp [CompoundRule.operators])
    (by decide) hfills

/-- A rule that repeats a code makes a stem for compounds only known by itself. -/
theorem check_of_repeated_code :
    ∃ lexicon : Lexicon,
      (Grammar.read "ONLYINCOMPOUND OC\nCOMPOUNDRULE 1\nCOMPOUNDRULE X+\n".toList).value =
        .ok lexicon.grammar ∧
      (∀ rule ∈ lexicon.grammar.compoundRules, ∃ parts, rule.IsMadeOf parts) ∧
      lexicon.dictionary = (Dictionary.read "foot/OCX\n".toList).value ∧
      lexicon.ForCompoundsOnly "foot".toList ∧
      (lexicon.check [] "foot".toList).value = true := by
  let affix := "ONLYINCOMPOUND OC\nCOMPOUNDRULE 1\nCOMPOUNDRULE X+\n".toList
  let grammar := (Grammar.read affix).value.toOption.getD .empty
  let lexicon := (build grammar (Dictionary.read "foot/OCX\n".toList).value).value
  have hread : (Grammar.read affix).value = .ok lexicon.grammar := by decide +kernel
  have hcompounds : lexicon.grammar.compoundRules = [⟨"X+".toList⟩] := by decide +kernel
  have hparts : CompoundRule.IsMadeOf ⟨"X+".toList⟩ [⟨'X', .atLeastOnce⟩] :=
    ⟨by decide, by decide⟩
  have hrules : ∀ rule ∈ lexicon.grammar.compoundRules, ∃ parts, rule.IsMadeOf parts :=
    hparts.forall_mem hcompounds
  have honly : lexicon.ForCompoundsOnly "foot".toList :=
    ⟨by decide +kernel, by decide +kernel, Dictionary.not_joins_of_length (by decide +kernel)⟩
  exact ⟨lexicon, hread, hrules, rfl, honly, by decide +kernel⟩

end Lexicon

end Orthography
