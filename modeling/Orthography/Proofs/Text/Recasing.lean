import Mathlib.Data.List.Basic
import Orthography.Text.Case

/-!
# Words that lower back

Capitalizing changes the first character of a word only, and lowering looks at all of them.  So the
capitalized form of a word lowers back to the word exactly if each of the other characters lowers to
itself, and the first is the one small letter of its one capital (`lower_upperFirst_eq_iff`).  Where
a capital sigma stands does not matter for that: neither of its small forms is itself.
-/

namespace Orthography

namespace Character

/-- A character is mapped to at least one character, if all longer forms of the table have one. -/
theorem recase_ne_nil {shifts : List Shift} {expansions : List (Nat × List Nat)}
    (hexpansions : ∀ expansion ∈ expansions, expansion.2 ≠ []) (c : Char) :
    recase shifts expansions c ≠ [] := by
  unfold recase
  split
  · rename_i codes hcodes
    obtain ⟨before, after, hfound, -⟩ := List.lookup_eq_some_iff.mp hcodes
    have hmem : (c.toNat, codes) ∈ expansions := by
      rw [hfound]
      exact List.mem_append_right _ List.mem_cons_self
    exact List.map_eq_nil_iff.not.mpr (hexpansions _ hmem)
  · exact List.cons_ne_nil _ _

/-- Every character has an upper-case form. -/
theorem toUpper_ne_nil (c : Char) : toUpper c ≠ [] := recase_ne_nil (by decide) c

/-- Every character has a lower-case form. -/
theorem toLower_ne_nil (c : Char) : toLower c ≠ [] := recase_ne_nil (by decide) c

/-- The small form of a capital sigma, where it does not end a word. -/
theorem toLower_sigma : toLower 'Σ' = ['σ'] := by decide +kernel

end Character

namespace Text

open Character

/-- What a character is lowered to between the characters `before` (nearest first) and `rest`. -/
def loweredIn (before rest : List Char) (c : Char) : Text :=
  if c = 'Σ' then if letterNext before && !letterNext rest then ['ς'] else ['σ'] else toLower c

theorem lowerAfter_cons (before rest : List Char) (c : Char) :
    lowerAfter before (c :: rest) = loweredIn before rest c ++ lowerAfter (c :: before) rest := rfl

/-- Every character is lowered to something. -/
theorem one_le_length_loweredIn (before rest : List Char) (c : Char) :
    1 ≤ (loweredIn before rest c).length := by
  rw [Nat.one_le_iff_ne_zero, Ne, List.length_eq_zero_iff]
  unfold loweredIn
  split
  · split <;> exact List.cons_ne_nil _ _
  · exact toLower_ne_nil c

/-- At the start of a word a character is lowered as if it stood alone. -/
theorem loweredIn_start (rest : List Char) (c : Char) : loweredIn [] rest c = toLower c := by
  unfold loweredIn
  split
  · rename_i hsigma
    rw [hsigma, toLower_sigma]
    rfl
  · rfl

/-- A character is left as it is where it would be if it stood alone. -/
theorem loweredIn_eq_self_iff {before rest : List Char} {c : Char} :
    loweredIn before rest c = [c] ↔ toLower c = [c] := by
  unfold loweredIn
  split
  · rename_i hsigma
    subst hsigma
    rw [toLower_sigma]
    split <;> decide
  · exact Iff.rfl

/-- Lowering makes no word shorter. -/
theorem length_le_length_lowerAfter (before : List Char) (word : Text) :
    word.length ≤ (lowerAfter before word).length := by
  induction word generalizing before with
  | nil => exact Nat.zero_le _
  | cons c rest ih =>
      have hfirst := one_le_length_loweredIn before rest c
      have hrest := ih (c :: before)
      rw [lowerAfter_cons, List.length_append, List.length_cons]
      omega

/-- If lowering does not make a word longer, each of its characters is lowered to one. -/
theorem lowerAfter_cons_eq_iff {before rest other : List Char} {c d : Char}
    (hlength : other.length = rest.length) :
    lowerAfter before (c :: rest) = d :: other ↔
      loweredIn before rest c = [d] ∧ lowerAfter (c :: before) rest = other := by
  rw [lowerAfter_cons]
  constructor
  · intro hlower
    have hfirst := one_le_length_loweredIn before rest c
    have hrest := length_le_length_lowerAfter (c :: before) rest
    have hsum := congrArg List.length hlower
    rw [List.length_append, List.length_cons] at hsum
    have hone : (loweredIn before rest c).length = [d].length := by
      rw [List.length_singleton]
      omega
    exact List.append_inj hlower hone
  · rintro ⟨hfirst, hrest⟩
    rw [hfirst, hrest, List.singleton_append]

/-- A word is its own lower-case form exactly if each of its characters is. -/
theorem lowerAfter_eq_self_iff {before : List Char} {word : Text} :
    lowerAfter before word = word ↔ ∀ c ∈ word, toLower c = [c] := by
  induction word generalizing before with
  | nil => simp [lowerAfter]
  | cons c rest ih =>
      rw [lowerAfter_cons_eq_iff rfl, ih, loweredIn_eq_self_iff, List.forall_mem_cons]

/-- The first character of a word has one capital, whose one small letter it is, and the others are
small letters or have no case. -/
def LowersBack (word : Text) : Prop :=
  ∃ first rest capital, word = first :: rest ∧ toUpper first = [capital] ∧
    toLower capital = [first] ∧ ∀ c ∈ rest, toLower c = [c]

/-- The capitalized form of a word lowers back to the word exactly if its first character does and
the others lower to themselves. -/
theorem lower_upperFirst_eq_iff {word : Text} :
    word.upperFirst.lower = word ↔ word = [] ∨ word.LowersBack := by
  cases word with
  | nil => exact iff_of_true rfl (.inl rfl)
  | cons first rest =>
      rw [or_iff_right (List.cons_ne_nil first rest)]
      constructor
      · intro hlower
        obtain ⟨capital, others, hupper⟩ := List.exists_cons_of_ne_nil (toUpper_ne_nil first)
        -- a capital of more characters would lower to more than the first one
        have hlength := length_le_length_lowerAfter [] (toUpper first ++ rest)
        rw [show lowerAfter [] (toUpper first ++ rest) = first :: rest from hlower, hupper,
          List.cons_append, List.length_cons, List.length_cons, List.length_append] at hlength
        have hone : others = [] := by
          rw [← List.length_eq_zero_iff]
          omega
        subst hone
        rw [upperFirst, hupper, List.singleton_append, lower, lowerAfter_cons_eq_iff rfl,
          loweredIn_start, lowerAfter_eq_self_iff] at hlower
        exact ⟨first, rest, capital, rfl, hupper, hlower.1, hlower.2⟩
      · rintro ⟨_, _, capital, hword, hupper, hcapital, hrest⟩
        obtain ⟨rfl, rfl⟩ := List.cons.inj hword
        rw [upperFirst, hupper, List.singleton_append, lower, lowerAfter_cons_eq_iff rfl,
          loweredIn_start, lowerAfter_eq_self_iff]
        exact ⟨hcapital, hrest⟩

end Text

end Orthography
