import Orthography.Proofs.Pattern.Brackets
import Orthography.Proofs.Pattern.Scanning

/-!
# Scanning a written class

A class in brackets is read part by part until its outermost bracket closes.  Each part leaves a
text of fixed width behind, so a whole class does, and the last character that a class takes up is
its closing bracket.
-/

namespace Orthography.Pattern

open Removal (isFixedWidth)

/-! ### What is left -/

/-- What a scanner leaves of a text: its end, and that of fixed width. -/
structure Leaves (text rest : Text) : Prop where
  suffix : rest <:+ text
  fixed : isFixedWidth rest = true

namespace Leaves

variable {text middle rest : Text}

/-- Nothing read leaves the whole text. -/
theorem refl (hfixed : isFixedWidth text = true) : Leaves text text :=
  ⟨List.suffix_rfl, hfixed⟩

/-- One scanner may go on where another stopped. -/
theorem trans (hfirst : Leaves text middle) (hsecond : Leaves middle rest) : Leaves text rest :=
  ⟨hsecond.suffix.trans hfirst.suffix, hsecond.fixed⟩

/-- Characters without a backslash may be passed over. -/
theorem drop {n : Nat} (hplain : '\\' ∉ text.take n) (hfixed : isFixedWidth text = true) :
    Leaves text (text.drop n) := by
  refine ⟨List.drop_suffix n text, isFixedWidth_of_append hplain ?_⟩
  rwa [List.take_append_drop]

/-- One character that is no backslash may be passed over. -/
theorem cons {c : Char} (hc : c ≠ '\\') (hfixed : isFixedWidth (c :: rest) = true) :
    Leaves (c :: rest) rest :=
  ⟨List.suffix_cons c rest, isFixedWidth_tail hc hfixed⟩

end Leaves

/-! ### The start of a bracket -/

/-- The characters behind the first `n` from a cursor on, with their positions, where none of those
passed over is a backslash. -/
structure Ahead (cursor : Cursor) (chars : List (Char × Nat)) (n : Nat) : Prop where
  chars_eq : chars = (cursor.rest.drop n).zipIdx (cursor.position + n)
  plain : '\\' ∉ cursor.rest.take n

namespace Ahead

variable {cursor : Cursor} {chars : List (Char × Nat)} {n : Nat}

/-- One more character that is no backslash is passed over. -/
theorem next {c : Char} {position : Nat} (hahead : Ahead cursor ((c, position) :: chars) n)
    (hc : c ≠ '\\') : Ahead cursor chars (n + 1) := by
  obtain ⟨rest, hrest, rfl, rfl⟩ := eq_cons_of_zipIdx _ _ hahead.chars_eq.symm
  have hat : cursor.rest[n]? = some c := by
    rw [← List.head?_drop, hrest, List.head?_cons]
  constructor
  · rw [← List.drop_drop, hrest, List.drop_succ_cons, List.drop_zero, Nat.add_assoc]
  · rw [List.take_add_one, hat]
    simpa [hahead.plain] using Ne.symm hc

/-- A caret at the start of a bracket may be passed over. -/
theorem exists_behindCaret (hahead : Ahead cursor chars n) :
    ∃ m, Ahead cursor (behindCaret chars) m := by
  unfold behindCaret
  split
  · rename_i hcaret
    cases chars with
    | nil => exact ⟨n, hahead⟩
    | cons first chars =>
        have hc : first.1 = '^' := by simpa using hcaret
        exact ⟨n + 1, hahead.next (by rw [hc]; decide)⟩
  · exact ⟨n, hahead⟩

/-- The first character ahead is gone to over plain characters. -/
theorem leaves_head {c : Char} {position : Nat} (hahead : Ahead cursor ((c, position) :: chars) n)
    (hfixed : isFixedWidth cursor.rest = true) :
    Leaves cursor.rest (cursor.moveTo position).rest := by
  obtain ⟨_, -, rfl, -⟩ := eq_cons_of_zipIdx _ _ hahead.chars_eq.symm
  rw [rest_moveTo_add]
  exact Leaves.drop hahead.plain hfixed

end Ahead

/-- Minus signs at the start of a bracket are plain characters. -/
theorem scanHyphens_ahead {cursor : Cursor} {chars : List (Char × Nat)} {n : Nat}
    (hahead : Ahead cursor chars n) (items : List SizedClass) :
    ∃ m, Ahead cursor (scanHyphens chars items).2 m := by
  fun_induction scanHyphens chars items generalizing n with
  | case1 position rest items ih => exact ih (hahead.next (by decide))
  | case2 chars items hhyphen => exact ⟨n, hahead⟩

/-- The start of a bracket leaves a text of fixed width. -/
theorem openClass_leaves {outer : ClassLevel} {cursor behind : Cursor} {rest : Text}
    {level : ClassLevel} {frame : ClassFrame} (hstart : cursor.rest = '[' :: rest)
    (hfixed : isFixedWidth cursor.rest = true)
    (hopen : openClass false outer cursor = .ok (behind, level, frame)) :
    Leaves cursor.rest behind.rest := by
  obtain ⟨items, next, hbracket, rfl, -, -⟩ := openClass_eq_ok_iff.mp hopen
  have hinside : Ahead cursor ((cursor.skip 1).counting false) 1 := by
    refine ⟨rfl, ?_⟩
    simp [hstart]
  obtain ⟨n, hbody⟩ := hinside.exists_behindCaret
  obtain ⟨m, hhyphens⟩ := scanHyphens_ahead hbody []
  cases hbracket with
  | closing hclosing =>
      rw [hclosing] at hhyphens
      exact (hhyphens.next (by decide)).leaves_head hfixed
  | hyphens hsome =>
      rw [hsome] at hhyphens
      exact hhyphens.leaves_head hfixed

/-! ### The parts of a bracket -/

/-- A named class leaves a text of fixed width. -/
theorem scanNamed?_leaves {cursor behind : Cursor} {item : SizedClass}
    (hfixed : isFixedWidth cursor.rest = true)
    (hscan : scanNamed? cursor = some (item, behind)) : Leaves cursor.rest behind.rest := by
  obtain ⟨negated, name, sort, hname, hprefix, rfl, -⟩ := scanNamed?_eq_some_iff.mp hscan
  refine Leaves.drop ?_ hfixed
  rw [← List.prefix_iff_eq_take.mp hprefix]
  exact not_mem_namedText hname negated rfl (by decide)

/-- A sign inside a bracket leaves a text of fixed width. -/
theorem scanClassSign_leaves {c : Char} {rest : Text} {cursor behind : Cursor} {sign : Sign}
    (hstart : cursor.rest = c :: rest) (hfixed : isFixedWidth cursor.rest = true)
    (hscan : scanClassSign false c cursor = .ok (sign, behind)) :
    Leaves cursor.rest behind.rest := by
  obtain ⟨text, position⟩ := cursor
  subst hstart
  unfold scanClassSign at hscan
  split at hscan
  · rename_i hslash
    obtain rfl : c = '\\' := by simpa using hslash
    have htakes := scanEscape_takes hfixed hscan
    exact ⟨htakes.suffix.trans (List.suffix_cons _ _), htakes.isFixedWidth hfixed⟩
  · rename_i hplain
    cases hscan
    exact Leaves.cons (by simpa using hplain) hfixed

/-- A character, escape or range inside a bracket leaves a text of fixed width. -/
theorem scanRange_leaves {unclosed : Fault} {c : Char} {rest : Text} {cursor behind : Cursor}
    {item : SizedClass} (hstart : cursor.rest = c :: rest)
    (hfixed : isFixedWidth cursor.rest = true)
    (hscan : scanRange false unclosed c cursor = .ok (item, behind)) :
    Leaves cursor.rest behind.rest := by
  cases scanRange_eq_ok_iff.mp hscan with
  | single hlow => exact scanClassSign_leaves hstart hfixed hlow
  | range hlow hhyphen hpeek hupper hrest hhigh horder =>
      rename_i next upper
      subst hupper
      have hnext := scanClassSign_leaves hstart hfixed hlow
      have hhyphenLeaves : Leaves next.rest (next.skip 1).rest := by
        obtain ⟨others, hothers⟩ := List.head?_eq_some_iff.mp hhyphen
        have hplain : next.rest = '-' :: others := hothers
        exact Leaves.drop (by simp [hplain]) hnext.fixed
      exact hnext.trans (hhyphenLeaves.trans (scanClassSign_leaves hrest hhyphenLeaves.fixed hhigh))

/-- What one part of a bracket leaves: a text of fixed width inside the class, or, where the class
ends, what is behind its closing bracket. -/
theorem step_leaves {reader : ClassReader} {result : (SizedClass × Cursor) ⊕ ClassReader}
    (hfixed : isFixedWidth reader.cursor.rest = true)
    (hstep : reader.step false = .ok result) :
    match result with
    | .inl (_, behind) => reader.cursor.rest = ']' :: behind.rest
    | .inr next => Leaves reader.cursor.rest next.cursor.rest := by
  rw [ClassReader.step_eq_ok_iff] at hstep
  simp only [Cursor.settle, Bool.false_eq_true, ↓reduceIte] at hstep
  cases hstep with
  | named hstart hnamed => exact scanNamed?_leaves hfixed hnamed
  | opens hstart hnamed hopen => exact openClass_leaves hstart hfixed hopen
  | ends hstart hframes => simp [Cursor.skip, hstart]
  | closes hstart hframes => exact Leaves.drop (by simp [hstart]) hfixed
  | operator operation hstart =>
      have hplain : '\\' ∉ reader.cursor.rest.take 2 := by
        rw [hstart]
        cases operation <;> simp [SetOperation.sign]
      exact Leaves.drop hplain hfixed
  | range hstart hopens hcloses hoperator hrange => exact scanRange_leaves hstart hfixed hrange

/-- A class that is read to its end leaves a text of fixed width behind a closing bracket. -/
theorem finish_leaves {text : Text} (parts : Nat) {reader : ClassReader} {content : SizedClass}
    {behind : Cursor} (hleaves : Leaves text reader.cursor.rest)
    (hfinish : ClassReader.finish false parts reader = .ok (content, behind)) :
    Leaves text (']' :: behind.rest) := by
  induction parts generalizing reader with
  | zero => cases hfinish
  | succ parts ih =>
      unfold ClassReader.finish at hfinish
      split at hfinish
      · cases hfinish
      · rename_i result hstep
        cases hfinish
        have hclosed := step_leaves hleaves.fixed hstep
        rwa [hclosed] at hleaves
      · rename_i next hstep
        exact ih (hleaves.trans (step_leaves hleaves.fixed hstep)) hfinish

/-- A class leaves a text of fixed width behind a closing bracket. -/
theorem scanClass_leaves {cursor behind : Cursor} {rest : Text} {content : SizedClass}
    (hstart : cursor.rest = '[' :: rest) (hfixed : isFixedWidth cursor.rest = true)
    (hscan : scanClass false cursor = .ok (content, behind)) :
    Leaves cursor.rest (']' :: behind.rest) := by
  obtain ⟨⟨inside, level, frame⟩, hopen, hfinish⟩ := eq_ok_of_bind hscan
  exact finish_leaves _ (openClass_leaves hstart hfixed hopen) hfinish

end Orthography.Pattern
