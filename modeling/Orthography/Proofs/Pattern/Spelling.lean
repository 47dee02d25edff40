import Orthography.Proofs.Pattern.Language
import Orthography.Proofs.Pattern.Reading

/-!
# The languages of what is read

Each state of a group that is being read has two languages: that of the alternatives before the last
bar and that of the pieces behind it.  A piece more multiplies the second one, and a bar adds it to
the first.  Where case is ignored, an escaped text spells the words that fold alike.
-/

namespace Orthography.Pattern

open Character (foldKey foldOrbit mem_foldOrbit)

variable {level : Level} {piece : Piece} {depth : Nat} {before current language : Language Char}

/-! ### Levels -/

/-- Pieces, the last of them first, spell a language: in front of any pattern they spell the words
of the language with those of the pattern behind them. -/
def SpellInTurn (pieces : List Piece) (language : Language Char) : Prop :=
  ∀ (rest : Node) (tail : Language Char), rest.Spells tail →
    (pieces.foldl (fun rest piece => .seq piece.node rest) rest).Spells (language * tail)

/-- Alternatives, the last of them first, spell a language: beside any pattern they spell the words
of the language or of the pattern. -/
def SpellEither (branches : List Piece) (language : Language Char) : Prop :=
  ∀ (rest : Node) (other : Language Char), rest.Spells other →
    (branches.foldl (fun rest branch => .alt branch.node rest) rest).Spells (language + other)

/-- The state of a group whose alternatives before the last bar spell one language, and whose pieces
behind it spell another; none of its pieces nests deeper than a bound. -/
structure Level.Means (level : Level) (depth : Nat) (before current : Language Char) : Prop where
  branches : SpellEither level.branches before
  pieces : SpellInTurn level.pieces current
  branchDepth : ∀ branch ∈ level.branches, branch.depth ≤ depth + 1
  pieceDepth : ∀ piece ∈ level.pieces, piece.depth ≤ depth

/-- The greatest depth of pieces within a bound. -/
theorem greatestDepth_le {pieces : List Piece} (hpieces : ∀ piece ∈ pieces, piece.depth ≤ depth) :
    greatestDepth pieces ≤ depth := by
  have hfold (start : Nat) (hstart : start ≤ depth) :
      (pieces.map (·.depth)).foldl max start ≤ depth := by
    induction pieces generalizing start with
    | nil => exact hstart
    | cons piece pieces ih =>
        obtain ⟨hpiece, hrest⟩ := List.forall_mem_cons.mp hpieces
        exact ih hrest _ (max_le hstart hpiece)
  exact hfold 0 (Nat.zero_le _)

namespace Level

/-- A group that has just been opened. -/
theorem means_start (depth : Nat) : Level.start.Means depth 0 1 where
  branches := fun rest other hrest => by rwa [zero_add]
  pieces := fun rest tail hrest => by rwa [one_mul]
  branchDepth := nofun
  pieceDepth := nofun

/-- A piece more. -/
theorem Means.push (hlevel : level.Means depth before current) (hpiece : piece.node.Spells language)
    (hdepth : piece.depth ≤ depth) :
    (level.push piece).Means depth before (current * language) where
  branches := hlevel.branches
  pieces := fun rest tail hrest => by
    rw [mul_assoc]
    exact hlevel.pieces _ _ (hpiece.seq hrest)
  branchDepth := hlevel.branchDepth
  pieceDepth := List.forall_mem_cons.mpr ⟨hdepth, hlevel.pieceDepth⟩

/-- The pieces behind the last bar in sequence. -/
theorem Means.sequence (hlevel : level.Means depth before current) :
    level.sequence.node.Spells current ∧ level.sequence.depth ≤ depth + 1 := by
  refine ⟨?_, ?_⟩
  · have hnode : level.sequence.node =
        level.pieces.foldl (fun rest piece => .seq piece.node rest) .empty := by
      unfold Level.sequence
      split <;> rfl
    have hspells := hlevel.pieces _ _ Node.spells_empty
    rwa [mul_one, ← hnode] at hspells
  · have hpieces := hlevel.pieceDepth
    unfold Level.sequence
    split
    · exact Nat.zero_le _
    · rename_i one hone
      rw [hone] at hpieces
      exact (hpieces one List.mem_cons_self).trans (Nat.le_succ _)
    · have hgreatest := greatestDepth_le hpieces
      dsimp only
      omega

/-- A bar. -/
theorem Means.bar (hlevel : level.Means depth before current) :
    level.bar.Means depth (before + current) 1 where
  branches := fun rest other hrest => by
    rw [add_assoc]
    exact hlevel.branches _ _ (hlevel.sequence.1.alt hrest)
  pieces := (means_start depth).pieces
  branchDepth := List.forall_mem_cons.mpr ⟨hlevel.sequence.2, hlevel.branchDepth⟩
  pieceDepth := nofun

/-- All of a group. -/
theorem Means.whole (hlevel : level.Means depth before current) :
    level.whole.node.Spells (before + current) ∧ level.whole.depth ≤ depth + 2 := by
  obtain ⟨hspells, hdepth⟩ := hlevel.sequence
  have hgreatest := greatestDepth_le hlevel.branchDepth
  refine ⟨?_, ?_⟩
  · have hnode : level.whole.node = level.branches.foldl
        (fun rest branch => .alt branch.node rest) level.sequence.node := by
      unfold Level.whole
      dsimp only
      split
      · rename_i hnone
        rw [hnone]
        rfl
      · rfl
    exact hnode ▸ hlevel.branches _ _ hspells
  · unfold Level.whole
    dsimp only
    split
    · exact hdepth.trans (Nat.le_succ _)
    · dsimp only
      omega

end Level

/-! ### Words that fold alike -/

/-- The words that are equal to a word, character by character, up to case. -/
def alike (word : Text) : Language Char := {other | other.map foldKey = word.map foldKey}

theorem mem_alike {word other : Text} :
    other ∈ alike word ↔ other.map foldKey = word.map foldKey := Iff.rfl

@[simp] theorem alike_nil : alike [] = 1 := by
  ext other
  simp [mem_alike, Language.mem_one]

/-- The first character folds alike, and so do the others. -/
theorem alike_cons (c : Char) (word : Text) : alike (c :: word) = alike [c] * alike word := by
  ext other
  rw [Language.mem_mul]
  constructor
  · intro hother
    cases other with
    | nil => cases hother
    | cons d other =>
        obtain ⟨hd, hrest⟩ := List.cons.inj hother
        exact ⟨[d], congrArg (fun key => [key]) hd, other, hrest, rfl⟩
  · rintro ⟨front, hfront, behind, hbehind, rfl⟩
    rw [mem_alike, List.map_append, mem_alike.mp hfront, mem_alike.mp hbehind]
    rfl

/-- The words that are alike to one of several. -/
def alikeAny (words : List Text) : Language Char := {other | ∃ word ∈ words, other ∈ alike word}

theorem mem_alikeAny {words : List Text} {other : Text} :
    other ∈ alikeAny words ↔ ∃ word ∈ words, other ∈ alike word := Iff.rfl

theorem alikeAny_cons (word : Text) (words : List Text) :
    alikeAny (word :: words) = alike word + alikeAny words := by
  ext other
  simp [mem_alikeAny, Language.mem_add]

/-- A character read without regard to case spells the characters that fold alike. -/
theorem spells_literalPiece (c : Char) : (literalPiece true c).node.Spells (alike [c]) := by
  have hset : {word | ∃ d, (CharSet.chars (foldOrbit c)).contains d = true ∧ word = [d]} =
      alike [c] := by
    ext word
    constructor
    · rintro ⟨d, hd, rfl⟩
      exact congrArg (fun key => [key]) (mem_foldOrbit.mp (List.contains_iff_mem.mp hd))
    · intro hword
      cases word with
      | nil => cases hword
      | cons d rest =>
          obtain ⟨hd, hrest⟩ := List.cons.inj hword
          rw [List.map_eq_nil_iff.mp hrest]
          exact ⟨d, List.contains_iff_mem.mpr (mem_foldOrbit.mpr hd), rfl⟩
  exact hset ▸ Node.spells_char (.chars (foldOrbit c))

namespace Level

/-- The characters of a text, if each of them spells a language and that of a text is put together
from those of its characters. -/
theorem Means.spell_of {ignoreCase : Bool} {languageOf : Text → Language Char}
    (hnil : languageOf [] = 1)
    (hcons : ∀ c word, languageOf (c :: word) = languageOf [c] * languageOf word)
    (hpiece : ∀ c, (literalPiece ignoreCase c).node.Spells (languageOf [c]))
    (hlevel : level.Means depth before current) (word : Text) :
    (level.spell ignoreCase word).Means depth before (current * languageOf word) := by
  induction word generalizing level current with
  | nil => rwa [hnil, mul_one]
  | cons c word ih =>
      rw [hcons, ← mul_assoc]
      exact ih (hlevel.push (hpiece c) (Nat.zero_le _))

/-- The characters of a text, read without regard to case. -/
theorem Means.spell (hlevel : level.Means depth before current) (word : Text) :
    (level.spell true word).Means depth before (current * alike word) :=
  hlevel.spell_of alike_nil alike_cons spells_literalPiece word

/-- Texts as alternatives. -/
theorem Means.spellEach (hlevel : level.Means depth before current) (words : List Text) :
    ∃ earlier last, (level.spellEach true words).Means depth earlier last ∧
      earlier + last = before + current + alikeAny words := by
  induction words generalizing level before current with
  | nil =>
      have hnone : alikeAny [] = 0 := by
        ext other
        simp [mem_alikeAny, Language.notMem_zero]
      exact ⟨before, current, hlevel, by rw [hnone, add_zero]⟩
  | cons word words ih =>
      have hnext := hlevel.bar.spell word
      rw [one_mul] at hnext
      obtain ⟨earlier, last, hlast, hsum⟩ := ih hnext
      exact ⟨earlier, last, hlast, by rw [hsum, alikeAny_cons, add_assoc _ (alike word)]⟩

end Level

end Orthography.Pattern
