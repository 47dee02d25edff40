import Orthography.Proofs.Affix.Gathered
import Orthography.Proofs.Pattern.Spelling
import Orthography.Proofs.Text.Cutting

/-!
# The languages of compound rules

A compound rule of codes with operators describes a language: each code stands for pieces that fold
like one of its members, and the operator behind it says how many.  The pattern that is made of the
rule, with all members escaped and put into groups, spells that language
(`CompoundRule.exists_compile`).
-/

namespace Orthography

open Character (foldKey isBlank)
open Computability
open Pattern

/-- How many pieces of a word a code accounts for. -/
inductive Times where
  | once
  | anyNumber
  | atLeastOnce
  | atMostOnce
  deriving DecidableEq, Repr

namespace Times

/-- The operator that is written behind the code, if there is one. -/
def sign : Times → Text
  | once => []
  | anyNumber => ['*']
  | atLeastOnce => ['+']
  | atMostOnce => ['?']

/-- Whether a code may account for a number of pieces. -/
def Allows : Times → Nat → Prop
  | once, count => count = 1
  | anyNumber, _ => True
  | atLeastOnce, count => 1 ≤ count
  | atMostOnce, count => count ≤ 1

/-- The words that are put together from an allowed number of words of a language. -/
def of : Times → Language Char → Language Char
  | once, language => language
  | anyNumber, language => language∗
  | atLeastOnce, language => language * language∗
  | atMostOnce, language => 1 + language

/-- A word is put together from an allowed number of pieces. -/
theorem mem_of_iff {times : Times} {language : Language Char} {word : Text} :
    word ∈ times.of language ↔ ∃ pieces : List Text, word = pieces.flatten ∧
      times.Allows pieces.length ∧ ∀ piece ∈ pieces, piece ∈ language := by
  cases times with
  | once =>
      constructor
      · intro hword
        exact ⟨[word], by simp, rfl, List.forall_mem_singleton.mpr hword⟩
      · rintro ⟨pieces, rfl, hone, hpieces⟩
        obtain ⟨piece, rfl⟩ := List.length_eq_one_iff.mp hone
        simpa [of] using hpieces
  | anyNumber => simp [of, Allows, Language.mem_kstar]
  | atLeastOnce =>
      rw [of, Language.mem_mul]
      constructor
      · rintro ⟨first, hfirst, other, hother, rfl⟩
        obtain ⟨pieces, rfl, hpieces⟩ := Language.mem_kstar.mp hother
        exact ⟨first :: pieces, rfl, Nat.le_add_left _ _,
          List.forall_mem_cons.mpr ⟨hfirst, hpieces⟩⟩
      · rintro ⟨pieces, rfl, hsome, hpieces⟩
        cases pieces with
        | nil => exact absurd hsome (Nat.not_succ_le_zero 0)
        | cons first pieces =>
            obtain ⟨hfirst, hrest⟩ := List.forall_mem_cons.mp hpieces
            exact ⟨first, hfirst, pieces.flatten, Language.mem_kstar.mpr ⟨pieces, rfl, hrest⟩, rfl⟩
  | atMostOnce =>
      rw [of, Language.mem_add, Language.mem_one]
      constructor
      · rintro (rfl | hword)
        · exact ⟨[], rfl, Nat.zero_le _, nofun⟩
        · exact ⟨[word], by simp, Nat.le_refl _, by simpa using hword⟩
      · rintro ⟨pieces, rfl, hone, hpieces⟩
        rcases Nat.le_one_iff_eq_zero_or_eq_one.mp hone with hnone | hone
        · exact .inl (by rw [List.length_eq_zero_iff.mp hnone]; rfl)
        · obtain ⟨piece, rfl⟩ := List.length_eq_one_iff.mp hone
          exact .inr (by simpa using hpieces)

end Times

/-- A code of a compound rule, with the number of pieces that it accounts for. -/
structure CompoundPart where
  code : Char
  times : Times
  deriving DecidableEq, Repr

namespace CompoundPart

/-- How a part is written. -/
def written (part : CompoundPart) : Text := part.code :: part.times.sign

/-- How a part is written in the pattern, its code replaced by the words that stand for it. -/
def filled (members : Code → List Text) (part : CompoundPart) : Text :=
  CompoundRule.group (members [part.code]) ++ part.times.sign

/-- The language of a part, given the words that stand for codes. -/
def language (members : Code → List Text) (part : CompoundPart) : Language Char :=
  part.times.of (alikeAny (members [part.code]))

end CompoundPart

/-! ### The pattern of a rule -/

section Pattern

variable {members : Code → List Text} {words : List Text} {parts : List CompoundPart}
  {level : Level} {depth : Nat} {before current : Language Char}

/-- The group of some words is read as one piece that spells the words alike to one of them. -/
theorem exists_piece_group (hsome : words ≠ []) :
    ∃ piece : Piece, piece.node.Spells (alikeAny words) ∧ piece.depth ≤ 3 ∧
      piece.repeatable = true ∧
      ∀ level rest, Reads true (CompoundRule.group words) rest level (level.push piece) := by
  obtain ⟨first, others, rfl⟩ := List.exists_cons_of_ne_nil hsome
  have hfirst := (Level.means_start 0).spell first
  rw [one_mul] at hfirst
  obtain ⟨earlier, last, hlevel, hsum⟩ := hfirst.spellEach others
  obtain ⟨hspells, hdepth⟩ := hlevel.whole
  rw [hsum, zero_add, ← alikeAny_cons] at hspells
  exact ⟨⟨_, 1 + _, true⟩, hspells, by dsimp only; omega, rfl, fun level rest =>
    reads_group (reads_alternatives first others)⟩

/-- A part is read as one piece that spells its language. -/
theorem exists_piece_filled {part : CompoundPart} (hsome : members [part.code] ≠ []) :
    ∃ piece : Piece, piece.node.Spells (part.language members) ∧ piece.depth ≤ 4 ∧
      ∀ level (rest : Text), rest.head? ≠ some '?' →
        Reads true (part.filled members) rest level (level.push piece) := by
  obtain ⟨group, hspells, hdepth, hrepeatable, hreads⟩ := exists_piece_group hsome
  obtain ⟨code, times⟩ := part
  cases times with
  | once =>
      refine ⟨group, hspells, hdepth.trans (by decide), fun level rest _ => ?_⟩
      rw [CompoundPart.filled, Times.sign, List.append_nil]
      exact hreads level rest
  | anyNumber => exact ⟨⟨_, 1 + _, true⟩, hspells.repeated_any true, by dsimp only; omega,
      fun level rest hrest => (hreads level _).append (reads_operator .any hrepeatable hrest)⟩
  | atLeastOnce => exact ⟨⟨_, 1 + _, true⟩, hspells.repeated_some true, by dsimp only; omega,
      fun level rest hrest => (hreads level _).append (reads_operator .some hrepeatable hrest)⟩
  | atMostOnce => exact ⟨⟨_, 1 + _, true⟩, hspells.repeated_optional true, by dsimp only; omega,
      fun level rest hrest => (hreads level _).append (reads_operator .optional hrepeatable hrest)⟩

/-- Parts are read one behind the other. -/
theorem exists_reads_parts (hlevel : level.Means 4 before current)
    (hsome : ∀ part ∈ parts, members [part.code] ≠ []) :
    ∃ next, (∀ rest, Reads true (parts.flatMap (·.filled members)) (')' :: rest) level next) ∧
      next.Means 4 before (current * (parts.map (·.language members)).prod) := by
  induction parts generalizing level current with
  | nil =>
      refine ⟨level, fun rest => .nil level, ?_⟩
      rwa [List.map_nil, List.prod_nil, mul_one]
  | cons part parts ih =>
      obtain ⟨hpart, hparts⟩ := List.forall_mem_cons.mp hsome
      obtain ⟨piece, hspells, hdepth, hreads⟩ := exists_piece_filled hpart
      obtain ⟨next, hnext, hmeans⟩ := ih (hlevel.push hspells hdepth) hparts
      have hhead (rest : Text) :
          (parts.flatMap (·.filled members) ++ ')' :: rest).head? ≠ some '?' := by
        cases parts with
        | nil => simp
        | cons second parts => simp [CompoundPart.filled, CompoundRule.group]
      refine ⟨next, fun rest => (hreads level _ (hhead rest)).append (hnext rest), ?_⟩
      rwa [List.map_cons, List.prod_cons, ← mul_assoc]

end Pattern

namespace CompoundRule

/-- A rule is made of parts, the codes of which are no operators. -/
structure IsMadeOf (rule : CompoundRule) (parts : List CompoundPart) : Prop where
  source : rule.source = parts.flatMap (·.written)
  codes : ∀ part ∈ parts, part.code ∉ operators

/-- A rule without blanks. -/
def IsSolid (rule : CompoundRule) : Prop := ∀ c ∈ rule.source, isBlank c = false

variable {members : Code → List Text} {parts : List CompoundPart}

/-- The codes of the parts stand in the rule. -/
theorem IsMadeOf.mem_source {rule : CompoundRule} (hrule : rule.IsMadeOf parts)
    {part : CompoundPart} (hpart : part ∈ parts) : part.code ∈ rule.source := by
  rw [hrule.source]
  exact List.mem_flatMap.mpr ⟨part, hpart, List.mem_cons_self⟩

/-- In a rule without blanks all that are no operators are codes. -/
theorem IsMadeOf.isCode {rule : CompoundRule} (hrule : rule.IsMadeOf parts)
    (hsolid : rule.IsSolid) : ∀ part ∈ parts, CompoundRule.isCode part.code = true := by
  intro part hpart
  have hblank := hsolid part.code (hrule.mem_source hpart)
  simp [CompoundRule.isCode, hrule.codes part hpart, hblank]

/-- The codes of the parts are those that the rule refers to. -/
theorem IsMadeOf.mem_codes {rule : CompoundRule} (hrule : rule.IsMadeOf parts)
    (hsolid : rule.IsSolid) {part : CompoundPart} (hpart : part ∈ parts) :
    [part.code] ∈ rule.codes :=
  List.mem_map_of_mem
    (List.mem_filter.mpr ⟨hrule.mem_source hpart, hrule.isCode hsolid part hpart⟩)

/-- Where the only rule is made of parts, every rule is. -/
theorem IsMadeOf.forall_mem {rule : CompoundRule} (hrule : rule.IsMadeOf parts)
    {rules : List CompoundRule} (hrules : rules = [rule]) :
    ∀ rule ∈ rules, ∃ parts, rule.IsMadeOf parts := by
  rw [hrules]
  exact List.forall_mem_singleton.mpr ⟨parts, hrule⟩

/-- Operators are left as they are. -/
theorem fill?_sign_append (times : Times) (rest : Text) :
    fill? members (times.sign ++ rest) = (fill? members rest).map (times.sign ++ ·) := by
  cases times with
  | once => simp [Times.sign]
  | anyNumber => exact if_neg (by decide)
  | atLeastOnce => exact if_neg (by decide)
  | atMostOnce => exact if_neg (by decide)

/-- If all codes have members, they are replaced by them. -/
theorem fill?_written (hcodes : ∀ part ∈ parts, isCode part.code = true)
    (hsome : ∀ part ∈ parts, members [part.code] ≠ []) :
    fill? members (parts.flatMap (·.written)) = some (parts.flatMap (·.filled members)) := by
  induction parts with
  | nil => rfl
  | cons part parts ih =>
      obtain ⟨hcode, hcodes⟩ := List.forall_mem_cons.mp hcodes
      obtain ⟨hpart, hsome⟩ := List.forall_mem_cons.mp hsome
      rw [List.flatMap_cons, CompoundPart.written, List.cons_append, fill?, if_pos hcode,
        fill?_sign_append, ih hcodes hsome]
      split
      · rename_i hnone
        exact absurd hnone hpart
      · simp [CompoundPart.filled]

/-- If a code has no members, there is no pattern. -/
theorem fill?_eq_none {part : CompoundPart} (hpart : part ∈ parts)
    (hcodes : ∀ part ∈ parts, isCode part.code = true) (hnone : members [part.code] = []) :
    fill? members (parts.flatMap (·.written)) = none := by
  induction parts with
  | nil => exact absurd hpart List.not_mem_nil
  | cons first parts ih =>
      obtain ⟨hcode, hcodes⟩ := List.forall_mem_cons.mp hcodes
      rw [List.flatMap_cons, CompoundPart.written, List.cons_append, fill?, if_pos hcode,
        fill?_sign_append]
      rcases List.mem_cons.mp hpart with rfl | hpart
      · rw [hnone]
      · rw [ih hpart hcodes]
        split <;> rfl

/-- The pattern of a rule whose codes all have members spells the languages of its parts one behind
the other. -/
theorem exists_compile {rule : CompoundRule} (hrule : rule.IsMadeOf parts)
    (hsolid : rule.IsSolid) (hsome : ∀ part ∈ parts, members [part.code] ≠ []) :
    ∃ matcher, rule.compile members = .ok (some matcher) ∧
      ∀ word, matcher.isMatch word = true ↔ word ∈ (parts.map (·.language members)).prod := by
  obtain ⟨body, hbody, hmeans⟩ := exists_reads_parts (Level.means_start 4) hsome
  obtain ⟨hspells, hdepth⟩ := hmeans.whole
  rw [zero_add, one_mul] at hspells
  let group : Piece := ⟨body.whole.node, 1 + body.whole.depth, true⟩
  let level := ((Level.start.push ⟨.place .textStart, 0, true⟩).push group).push
    ⟨.place .textEnd, 0, true⟩
  let text := "^(?:".toList ++ parts.flatMap (·.filled members) ++ [')', '$']
  have hreads : Reads true text [] .start level := by
    have htext : text = ['^'] ++
        ("(?:".toList ++ parts.flatMap (·.filled members) ++ [')'] ++ ['$']) := by
      simp [text]
    rw [htext]
    exact reads_textStart.append ((reads_group (hbody ['$'])).append reads_textEnd)
  have hwhole : level.whole.depth ≤ nestingLimit := by
    have hpieces : ∀ piece ∈ level.pieces, piece.depth ≤ 7 :=
      List.forall_mem_cons.mpr ⟨Nat.zero_le _,
        List.forall_mem_cons.mpr ⟨Nat.add_le_add_left hdepth 1, List.forall_mem_singleton.mpr
          (Nat.zero_le _)⟩⟩
    calc level.whole.depth = 1 + greatestDepth level.pieces := rfl
      _ ≤ 1 + 7 := Nat.add_le_add_left (greatestDepth_le hpieces) 1
      _ ≤ nestingLimit := by decide
  have hread := read_of_reads hreads hwhole
  have hpattern : rule.pattern? members = some text := by
    rw [pattern?, hrule.source, fill?_written (hrule.isCode hsolid) hsome]
    rfl
  refine ⟨⟨text, level.whole.node⟩, ?_, fun word => hspells.isMatch_iff word⟩
  rw [compile, hpattern]
  simp only [hread]
  rfl

/-- A rule with a code that has no members is passed over. -/
theorem compile_eq_none {rule : CompoundRule} (hrule : rule.IsMadeOf parts)
    (hsolid : rule.IsSolid) {part : CompoundPart} (hpart : part ∈ parts)
    (hnone : members [part.code] = []) :
    rule.compile members = .ok none := by
  rw [compile, pattern?, hrule.source, fill?_eq_none hpart (hrule.isCode hsolid) hnone]
  rfl

end CompoundRule

/-! ### Rules that are read -/

namespace Statement

/-- Compound rules are columns, so they have no blanks. -/
theorem isSolid_of_mem_compoundsOf {lines : List Text} {rule : CompoundRule}
    (hrule : rule ∈ compoundsOf lines) : rule.IsSolid := by
  obtain ⟨line, -, hline⟩ := List.mem_filterMap.mp hrule
  obtain ⟨source, hsource, rfl⟩ := Option.map_eq_some_iff.mp hline
  exact Text.isBlank_of_mem_columns (List.mem_of_getElem? hsource)

/-- The compound rules of all statements of a file have no blanks. -/
theorem isSolid_readFrom {number : Nat} {lines : List Text} {statements : List Statement}
    (hread : (readFrom number lines).value = .ok statements) :
    ∀ statement ∈ statements, ∀ rule ∈ statement.compoundRules, rule.IsSolid := by
  refine forall_mem_of_readFrom ?_ ?_ ?_ ?_ hread
  · exact fun kind code combinable lines => List.forall_mem_nil _
  · exact fun lines rule hrule => isSolid_of_mem_compoundsOf hrule
  · exact fun given => List.forall_mem_nil _
  · exact fun name value => List.forall_mem_nil _

end Statement

/-- The compound rules of a grammar that is read have no blanks. -/
theorem Grammar.isSolid_of_read {affix : Text} {grammar : Grammar}
    (hread : (Grammar.read affix).value = .ok grammar) :
    ∀ rule ∈ grammar.compoundRules, rule.IsSolid := by
  obtain ⟨statements, hstatements, rfl⟩ := exists_readAll_of_read hread
  intro rule hrule
  rw [ofStatements, foldl_add] at hrule
  obtain ⟨statement, hstatement, hrule⟩ := List.mem_flatMap.mp hrule
  exact Statement.isSolid_readFrom hstatements statement hstatement rule hrule

end Orthography
