import Mathlib.Computability.Language
import Orthography.Pattern.Match
import Orthography.Text.Basic

/-!
# The language of a pattern

A pattern that asks for no places spells a language: from a position it can end behind each word of
the language that stands there, and nowhere else (`Node.Spells`).  Sequences, alternatives and
repetitions spell the products, sums and iterations of the languages of their parts.  Which end is
preferred does not matter for this, nor that a repetition takes an empty turn only as its first.
-/

namespace Orthography.Pattern

open Computability

/-! ### Turns -/

section Turns

variable {turn : Nat → List Nat} {greedy : Bool} {size position stop : Nat}

/-- The ends that are put in order are those reached by going on and the one here. -/
theorem mem_prefer {further : List Nat} {here : Nat} :
    stop ∈ prefer greedy further here ↔ stop ∈ further ∨ stop = here := by
  rw [prefer, List.mem_eraseDups]
  cases greedy with
  | true => simp
  | false => simp [or_comm]

/-- The table of turns holds the ends from each of the last positions. -/
theorem getD_turnsTable {count index : Nat} (hcount : count ≤ size) (hindex : index ≤ count) :
    (turnsTable turn greedy size count).getD index [] =
      turns turn greedy size (size - count + index) := by
  induction count generalizing index with
  | zero =>
      obtain rfl : index = 0 := by omega
      have hlast : size - (size - 0 + 0) = 0 := by omega
      rw [turns, hlast]
      rfl
  | succ count ih =>
      cases index with
      | zero =>
          have hfirst : size - (size - (count + 1) + 0) = count + 1 := by omega
          rw [turns, hfirst]
          rfl
      | succ index =>
          have hlater : size - (count + 1) + (index + 1) = size - count + index := by omega
          rw [hlater, ← ih (by omega) (by omega)]
          rfl

/-- Any number of turns that take up characters end where they begin, or behind a first turn and
those after it. -/
theorem mem_turns_iff (hturn : ∀ next ∈ turn position, next ≤ size) (hposition : position ≤ size) :
    stop ∈ turns turn greedy size position ↔
      stop = position ∨
        ∃ next ∈ turn position, position < next ∧ stop ∈ turns turn greedy size next := by
  cases hcount : size - position with
  | zero =>
      obtain rfl : position = size := by omega
      have hnone : ¬ ∃ next ∈ turn position, position < next ∧
          stop ∈ turns turn greedy position next := by
        rintro ⟨next, hnext, hlater, -⟩
        exact absurd (hturn next hnext) (by omega)
      rw [turns, hcount, or_iff_left hnone]
      exact List.mem_singleton
  | succ count =>
      have hhere : size - (count + 1) = position := by omega
      have hlater (next : Nat) (hnext : next ∈ turn position) (hahead : position < next) :
          (turnsTable turn greedy size count).getD (next - position - 1) [] =
            turns turn greedy size next := by
        have hsize := hturn next hnext
        have hnumber : size - count + (next - position - 1) = next := by omega
        rw [getD_turnsTable (by omega) (by omega), hnumber]
      rw [turns, hcount, turnsTable, List.headD_cons, hhere, mem_prefer, or_comm]
      simp only [List.mem_flatMap, List.mem_filter, decide_eq_true_eq, and_assoc]
      refine or_congr_right (exists_congr fun next => and_congr_right fun hnext =>
        and_congr_right fun hahead => ?_)
      rw [hlater next hnext hahead]

/-- A table with one row for each position. -/
theorem getD_map_range (row : Nat → List Nat) (hposition : position ≤ size) :
    ((List.range (size + 1)).map row).getD position [] = row position := by
  rw [List.getD_eq_getElem?_getD, List.getElem?_map, List.getElem?_range (by omega)]
  rfl

/-- At most one turn. -/
theorem mem_fewTurns_one_iff (hturn : ∀ next ∈ turn position, next ≤ size)
    (hposition : position ≤ size) :
    stop ∈ fewTurns turn greedy size 1 position ↔ stop ∈ turn position ∨ stop = position := by
  have hrow : (fewTurnsTable turn greedy size 1).getD position [] =
      prefer greedy ((turn position).flatMap fun next =>
        (fewTurnsTable turn greedy size 0).getD next []) position :=
    getD_map_range _ hposition
  have hnone (next : Nat) (hnext : next ∈ turn position) :
      (fewTurnsTable turn greedy size 0).getD next [] = [next] :=
    getD_map_range _ (hturn next hnext)
  rw [fewTurns, hrow, mem_prefer, List.mem_flatMap]
  refine or_congr_left ⟨?_, fun hstop => ⟨stop, hstop, ?_⟩⟩
  · rintro ⟨next, hnext, hstop⟩
    rw [hnone next hnext, List.mem_singleton] at hstop
    exact hstop ▸ hnext
  · rw [hnone stop hstop]
    exact List.mem_singleton_self stop

end Turns

/-! ### Words at a position -/

/-- Two words stand one behind the other. -/
theorem append_prefix_drop_iff {first second text : Text} {position : Nat} :
    first ++ second <+: text.drop position ↔
      first <+: text.drop position ∧ second <+: text.drop (position + first.length) := by
  rw [← List.drop_drop]
  constructor
  · rintro ⟨rest, hrest⟩
    rw [← hrest, List.append_assoc]
    refine ⟨List.prefix_append _ _, ?_⟩
    rw [List.drop_left]
    exact List.prefix_append _ _
  · rintro ⟨⟨behind, hbehind⟩, hsecond⟩
    rw [← hbehind, List.drop_left] at hsecond
    rw [← hbehind]
    exact (List.prefix_append_right_inj first).mpr hsecond

/-- What stands in a text ends in it. -/
theorem add_length_le_of_prefix {word text : Text} {position : Nat}
    (hposition : position ≤ text.length) (hword : word <+: text.drop position) :
    position + word.length ≤ text.length := by
  have hlength := hword.length_le
  rw [List.length_drop] at hlength
  omega

namespace Node

/-- A pattern that spells a language ends behind each of its words that stands at a position, and
nowhere else. -/
structure Spells (node : Node) (language : Language Char) : Prop where
  mem_ends_iff : ∀ (text : Text) (position stop : Nat), position ≤ text.length →
    (stop ∈ node.ends text.toArray position ↔
      ∃ word ∈ language, word <+: text.drop position ∧ stop = position + word.length)

variable {first second body : Node} {a b language : Language Char}

/-- The ends of a pattern that spells a language are in the text. -/
theorem Spells.le_length (hbody : body.Spells language) {text : Text} {position stop : Nat}
    (hposition : position ≤ text.length) (hstop : stop ∈ body.ends text.toArray position) :
    stop ≤ text.length := by
  obtain ⟨word, -, hword, rfl⟩ := (hbody.mem_ends_iff text position stop hposition).mp hstop
  exact add_length_le_of_prefix hposition hword

/-- The empty pattern spells the empty word. -/
theorem spells_empty : empty.Spells 1 where
  mem_ends_iff := by
    intro text position stop _
    simp [ends, Language.mem_one]

/-- A set of characters spells the words of one of its characters. -/
theorem spells_char (set : CharSet) :
    (char set).Spells {word | ∃ c, set.contains c = true ∧ word = [c]} where
  mem_ends_iff := by
    intro text position stop _
    have hstands (c : Char) : [c] <+: text.drop position ↔ text[position]? = some c := by
      rw [← List.head?_drop]
      cases text.drop position with
      | nil => simp
      | cons d rest => simp [List.cons_prefix_cons, eq_comm]
    have hholds : holdsAt text.toArray position set.contains = true ↔
        ∃ c, set.contains c = true ∧ [c] <+: text.drop position := by
      simp [holdsAt, hstands, Option.any_eq_true, and_comm]
    have hends : stop ∈ (char set).ends text.toArray position ↔
        holdsAt text.toArray position set.contains = true ∧ stop = position + 1 := by
      rw [ends]
      split <;> simp [*]
    rw [hends, hholds]
    constructor
    · rintro ⟨⟨c, hc, hstands⟩, rfl⟩
      exact ⟨[c], ⟨c, hc, rfl⟩, hstands, rfl⟩
    · rintro ⟨_, ⟨c, hc, rfl⟩, hstands, rfl⟩
      exact ⟨⟨c, hc, hstands⟩, rfl⟩

/-- A sequence spells the words of its parts one behind the other. -/
theorem Spells.seq (hfirst : first.Spells a) (hsecond : second.Spells b) :
    (first.seq second).Spells (a * b) where
  mem_ends_iff := by
    intro text position stop hposition
    simp only [ends, List.mem_eraseDups, List.mem_flatMap, Language.mem_mul]
    constructor
    · rintro ⟨middle, hmiddle, hstop⟩
      have hlength := hfirst.le_length hposition hmiddle
      obtain ⟨word, hword, hstands, rfl⟩ :=
        (hfirst.mem_ends_iff text position middle hposition).mp hmiddle
      obtain ⟨other, hother, hbehind, rfl⟩ := (hsecond.mem_ends_iff text _ stop hlength).mp hstop
      exact ⟨word ++ other, ⟨word, hword, other, hother, rfl⟩,
        append_prefix_drop_iff.mpr ⟨hstands, hbehind⟩, by rw [List.length_append, Nat.add_assoc]⟩
    · rintro ⟨_, ⟨word, hword, other, hother, rfl⟩, hstands, rfl⟩
      obtain ⟨hstands, hbehind⟩ := append_prefix_drop_iff.mp hstands
      have hlength := add_length_le_of_prefix hposition hstands
      exact ⟨position + word.length,
        (hfirst.mem_ends_iff text position _ hposition).mpr ⟨word, hword, hstands, rfl⟩,
        (hsecond.mem_ends_iff text _ _ hlength).mpr
          ⟨other, hother, hbehind, by rw [List.length_append, Nat.add_assoc]⟩⟩

/-- Alternatives spell the words of either. -/
theorem Spells.alt (hfirst : first.Spells a) (hsecond : second.Spells b) :
    (first.alt second).Spells (a + b) where
  mem_ends_iff := by
    intro text position stop hposition
    simp only [ends, List.mem_eraseDups, List.mem_append,
      hfirst.mem_ends_iff text position stop hposition,
      hsecond.mem_ends_iff text position stop hposition, Language.mem_add, or_and_right, exists_or]

/-- One more word in front of an iteration. -/
theorem append_mem_kstar {word other : Text} (hword : word ∈ language)
    (hother : other ∈ language∗) : word ++ other ∈ language∗ := by
  obtain ⟨words, rfl, hwords⟩ := Language.mem_kstar.mp hother
  exact Language.mem_kstar.mpr ⟨word :: words, rfl, List.forall_mem_cons.mpr ⟨hword, hwords⟩⟩

/-- Turns that take up characters spell the words that are put together from those of the body. -/
theorem Spells.mem_turns_iff (hbody : body.Spells language) {greedy : Bool} {text : Text}
    {position stop : Nat} (hposition : position ≤ text.length) :
    stop ∈ turns (body.ends text.toArray) greedy text.length position ↔
      ∃ word ∈ language∗, word <+: text.drop position ∧ stop = position + word.length := by
  constructor
  · intro hstop
    induction hroom : text.length - position using Nat.strongRecOn generalizing position with
    | ind room ih =>
        rw [Pattern.mem_turns_iff (fun _ => hbody.le_length hposition) hposition] at hstop
        rcases hstop with rfl | ⟨next, hnext, hahead, hstop⟩
        · exact ⟨[], Language.nil_mem_kstar _, List.nil_prefix, rfl⟩
        · have hlength := hbody.le_length hposition hnext
          obtain ⟨other, hother, hbehind, rfl⟩ :=
            ih (text.length - next) (by omega) hlength hstop rfl
          obtain ⟨word, hword, hstands, rfl⟩ :=
            (hbody.mem_ends_iff text position next hposition).mp hnext
          exact ⟨word ++ other, append_mem_kstar hword hother,
            append_prefix_drop_iff.mpr ⟨hstands, hbehind⟩,
            by rw [List.length_append, Nat.add_assoc]⟩
  · rintro ⟨word, hword, hstands, rfl⟩
    obtain ⟨words, rfl, hwords⟩ := Language.mem_kstar_iff_exists_nonempty.mp hword
    clear hword
    induction words generalizing position with
    | nil =>
        rw [Pattern.mem_turns_iff (fun _ => hbody.le_length hposition) hposition]
        exact .inl rfl
    | cons word words ih =>
        obtain ⟨⟨hword, hsome⟩, hrest⟩ := List.forall_mem_cons.mp hwords
        rw [List.flatten_cons] at hstands ⊢
        obtain ⟨hstands, hbehind⟩ := append_prefix_drop_iff.mp hstands
        have hlength := add_length_le_of_prefix hposition hstands
        have hahead : 0 < word.length := List.length_pos_iff.mpr hsome
        rw [Pattern.mem_turns_iff (fun _ => hbody.le_length hposition) hposition]
        refine .inr ⟨position + word.length,
          (hbody.mem_ends_iff text position _ hposition).mpr ⟨word, hword, hstands, rfl⟩,
          by omega, ?_⟩
        have hturns := ih hlength hrest hbehind
        rwa [Nat.add_assoc, ← List.length_append] at hturns

/-- What is put together from at least one word is the empty word or starts with one that is not
empty. -/
theorem mul_kstar_cases {word : Text} (hword : word ∈ language * language∗) :
    ([] ∈ language ∧ word = []) ∨
      ∃ first ∈ language, first ≠ [] ∧ ∃ other ∈ language∗, word = first ++ other := by
  obtain ⟨first, hfirst, other, hother, rfl⟩ := Language.mem_mul.mp hword
  by_cases hnone : first = []
  · subst hnone
    obtain ⟨words, rfl, hwords⟩ := Language.mem_kstar_iff_exists_nonempty.mp hother
    cases words with
    | nil => exact .inl ⟨hfirst, rfl⟩
    | cons second words =>
        obtain ⟨⟨hsecond, hsome⟩, hrest⟩ := List.forall_mem_cons.mp hwords
        exact .inr ⟨second, hsecond, hsome, words.flatten,
          Language.mem_kstar.mpr ⟨words, rfl, fun word hword => (hrest word hword).1⟩, rfl⟩
  · exact .inr ⟨first, hfirst, hnone, other, hother, rfl⟩

/-- At least one turn spells the words that are put together from at least one of the body. -/
theorem Spells.mem_someTurns_iff (hbody : body.Spells language) (greedy : Bool) {text : Text}
    {position stop : Nat} (hposition : position ≤ text.length) :
    stop ∈ someTurns (body.ends text.toArray) greedy text.length position ↔
      ∃ word ∈ language * language∗, word <+: text.drop position ∧
        stop = position + word.length := by
  rw [someTurns, List.mem_eraseDups, List.mem_flatMap]
  constructor
  · rintro ⟨next, hnext, hstop⟩
    have hlength := hbody.le_length hposition hnext
    obtain ⟨word, hword, hstands, rfl⟩ := (hbody.mem_ends_iff text position next hposition).mp hnext
    split at hstop
    · rename_i hempty
      rw [List.mem_singleton] at hstop
      exact ⟨word ++ [], Language.append_mem_mul hword (Language.nil_mem_kstar _),
        by rwa [List.append_nil], by rw [List.append_nil, hstop, hempty]⟩
    · obtain ⟨other, hother, hbehind, rfl⟩ := (hbody.mem_turns_iff hlength).mp hstop
      exact ⟨word ++ other, Language.append_mem_mul hword hother,
        append_prefix_drop_iff.mpr ⟨hstands, hbehind⟩, by rw [List.length_append, Nat.add_assoc]⟩
  · rintro ⟨word, hword, hstands, rfl⟩
    rcases mul_kstar_cases hword with ⟨hnone, rfl⟩ | ⟨first, hfirst, hsome, other, hother, rfl⟩
    · exact ⟨position, (hbody.mem_ends_iff text position position hposition).mpr
        ⟨[], hnone, List.nil_prefix, rfl⟩, by simp⟩
    · obtain ⟨hstands, hbehind⟩ := append_prefix_drop_iff.mp hstands
      have hlength := add_length_le_of_prefix hposition hstands
      have hahead : 0 < first.length := List.length_pos_iff.mpr hsome
      refine ⟨position + first.length, (hbody.mem_ends_iff text position _ hposition).mpr
        ⟨first, hfirst, hstands, rfl⟩, ?_⟩
      rw [if_neg (by omega), List.length_append, ← Nat.add_assoc]
      exact (hbody.mem_turns_iff hlength).mpr ⟨other, hother, hbehind, rfl⟩

/-- A repetition any number of times spells the iteration. -/
theorem Spells.repeated_any (hbody : body.Spells language) (greedy : Bool) :
    (repeated body 0 none greedy).Spells language∗ where
  mem_ends_iff := by
    intro text position stop hposition
    have hstar (word : Text) : word ∈ language∗ ↔ word = [] ∨ word ∈ language * language∗ := by
      rw [← Language.mem_one, ← Language.mem_add, Language.one_add_self_mul_kstar_eq_kstar]
    rw [ends, repetitionEnds, List.size_toArray, mem_prefer, hbody.mem_someTurns_iff _ hposition,
      or_comm]
    simp only [hstar, or_and_right, exists_or, exists_eq_left, List.nil_prefix, true_and,
      List.length_nil, Nat.add_zero]

/-- A repetition at least once spells what is put together from at least one word. -/
theorem Spells.repeated_some (hbody : body.Spells language) (greedy : Bool) :
    (repeated body 1 none greedy).Spells (language * language∗) where
  mem_ends_iff := by
    intro text position stop hposition
    rw [← hbody.mem_someTurns_iff greedy hposition]
    simp [ends, repetitionEnds, exactTurns]

/-- A repetition at most once spells the empty word too. -/
theorem Spells.repeated_optional (hbody : body.Spells language) (greedy : Bool) :
    (repeated body 0 (some 1) greedy).Spells (1 + language) where
  mem_ends_iff := by
    intro text position stop hposition
    have hends : stop ∈ (repeated body 0 (some 1) greedy).ends text.toArray position ↔
        stop ∈ fewTurns (body.ends text.toArray) greedy text.length 1 position := by
      simp [ends, repetitionEnds, exactTurns]
    rw [hends, mem_fewTurns_one_iff (fun _ => hbody.le_length hposition) hposition, or_comm,
      hbody.mem_ends_iff text position stop hposition]
    simp only [Language.mem_add, Language.mem_one, or_and_right, exists_or, exists_eq_left,
      List.nil_prefix, true_and, List.length_nil, Nat.add_zero]

/-! ### Whole texts -/

/-- A pattern matches a text if it has an end from some place. -/
theorem isMatch_iff (node : Node) (word : Text) :
    node.isMatch word = true ↔
      ∃ start ≤ word.length, ∃ stop, stop ∈ node.ends word.toArray start := by
  have hfrom (starts : List Nat) : (node.findFrom? word.toArray starts).isSome = true ↔
      ∃ start ∈ starts, ∃ stop, stop ∈ node.ends word.toArray start := by
    induction starts with
    | nil => simp [findFrom?]
    | cons start starts ih =>
        unfold findFrom?
        cases hends : node.ends word.toArray start with
        | nil => simp [hends, ih]
        | cons stop others => simp [hends]
  rw [isMatch, find?, hfrom]
  simp only [List.mem_range, Nat.lt_succ_iff]

/-- Between the start and the end of the text a pattern that spells a language matches the words of
the language. -/
theorem Spells.isMatch_iff (hbody : body.Spells language) (word : Text) :
    (Node.seq (place .textStart) (.seq body (.seq (place .textEnd) empty))).isMatch word = true ↔
      word ∈ language := by
  rw [Node.isMatch_iff]
  simp only [ends, Place.holds, List.mem_eraseDups, List.mem_flatMap, List.size_toArray,
    List.mem_ite_nil_right, List.mem_singleton, beq_iff_eq]
  constructor
  · rintro ⟨_, -, stop, _, ⟨rfl, rfl⟩, next, hnext, _, ⟨hend, -⟩, -⟩
    obtain ⟨spelt, hspelt, hstands, hlength⟩ :=
      (hbody.mem_ends_iff word 0 next (Nat.zero_le _)).mp hnext
    rw [List.drop_zero] at hstands
    have hwhole : spelt = word := hstands.eq_of_length (by omega)
    exact hwhole ▸ hspelt
  · intro hword
    have hends : word.length ∈ body.ends word.toArray 0 :=
      (hbody.mem_ends_iff word 0 _ (Nat.zero_le _)).mpr ⟨word, hword, by simp⟩
    exact ⟨0, Nat.zero_le _, word.length, 0, ⟨rfl, rfl⟩, word.length, hends, word.length,
      ⟨rfl, rfl⟩, rfl⟩

end Node

end Orthography.Pattern
