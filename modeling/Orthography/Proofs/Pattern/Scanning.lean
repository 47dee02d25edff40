import Mathlib.Data.List.Infix
import Orthography.Affix.Rule
import Orthography.Proofs.Pattern.Escapes

/-!
# Scanning a pattern of fixed width

`Removal.isFixedWidth` looks at the characters of a pattern one by one, and at the one behind a
backslash not at all; the scanners take signs, escapes and whole classes at a time.  The lemmas
below show that the two stay in step: behind whatever a scanner has read, the rest of a text of
fixed width is of fixed width again.  They also say what a scanner can have read last, so that no
sign can swallow the anchor at the end of a condition.
-/

namespace Orthography.Pattern

open Removal (isFixedWidth)

/-! ### Texts of fixed width -/

/-- Behind a character that is no backslash a text stays of fixed width. -/
theorem isFixedWidth_tail {c : Char} {rest : Text} (hc : c ≠ '\\')
    (hfixed : isFixedWidth (c :: rest) = true) : isFixedWidth rest = true := by
  rw [isFixedWidth] at hfixed
  · exact (Bool.and_eq_true_iff.mp hfixed).2
  · intro d more hslash
    exact absurd hslash hc

/-- Behind characters without a backslash a text stays of fixed width. -/
theorem isFixedWidth_of_append {part rest : Text} (hpart : '\\' ∉ part)
    (hfixed : isFixedWidth (part ++ rest) = true) : isFixedWidth rest = true := by
  induction part with
  | nil => exact hfixed
  | cons c part ih =>
      rw [List.mem_cons, not_or] at hpart
      exact ih hpart.2 (isFixedWidth_tail (Ne.symm hpart.1) hfixed)

/-- A text of fixed width does not start with an operator. -/
theorem head_ne_of_isFixedWidth {c : Char} {rest : Text}
    (hfixed : isFixedWidth (c :: rest) = true) : c ∉ ['*', '+', '?', '{', '|'] := by
  intro hc
  by_cases hslash : c = '\\'
  · subst hslash
    simp at hc
  · rw [isFixedWidth] at hfixed
    · have hplain := (Bool.and_eq_true_iff.mp hfixed).1
      rw [List.contains_iff_mem.mpr hc] at hplain
      cases hplain
    · intro d more hstart
      exact absurd hstart hslash

/-- A text of fixed width stays so when an anchor is put behind it. -/
theorem isFixedWidth_anchored {source : Text} (hsource : isFixedWidth source = true) :
    isFixedWidth (source ++ [')', '$']) = true := by
  fun_induction isFixedWidth source with
  | case1 d rest ih => exact ih hsource
  | case2 c rest hslash ih =>
      obtain ⟨hc, hrest⟩ := Bool.and_eq_true_iff.mp hsource
      cases rest with
      | nil => by_cases hstart : c = '\\' <;> simp_all [isFixedWidth]
      | cons d rest =>
          rw [List.cons_append, isFixedWidth]
          · exact Bool.and_eq_true_iff.mpr ⟨hc, ih hrest⟩
          · intro e more hstart hmore
            exact hslash d rest hstart rfl
  | case3 => rfl

/-! ### Positions -/

section Positions

variable (text : Text) (position : Nat)

/-- The first characters with their positions. -/
theorem take_zipIdx (n : Nat) :
    (text.zipIdx position).take n = (text.take n).zipIdx position := by
  induction text generalizing position n with
  | nil => simp
  | cons c rest ih =>
      cases n with
      | zero => rfl
      | succ n => simp [ih]

/-- The first character with its position, and those behind it with theirs. -/
theorem eq_cons_of_zipIdx {c : Char} {first : Nat} {others : List (Char × Nat)}
    (hcons : text.zipIdx position = (c, first) :: others) :
    ∃ rest, text = c :: rest ∧ first = position ∧ others = rest.zipIdx (position + 1) := by
  obtain ⟨d, rest, htext, hpair, hothers⟩ := List.zipIdx_eq_cons_iff.mp hcons
  cases hpair
  exact ⟨rest, htext, rfl, hothers⟩

end Positions

/-- Moving on by a number of characters drops them. -/
theorem rest_moveTo_add (cursor : Cursor) (n : Nat) :
    (cursor.moveTo (cursor.position + n)).rest = cursor.rest.drop n := by
  simp [Cursor.moveTo]

/-! ### Escapes -/

/-- What an escape takes up where no braces stand: its letter alone, or also hexadecimal digits or
the letter of a property. -/
inductive EscapeTakes : (text rest : Text) → Prop
  | letter (d : Char) (rest : Text) : EscapeTakes ('\\' :: d :: rest) rest
  | digits (d : Char) (digits rest : Text) (hsome : digits ≠ [])
      (hhex : ∀ c ∈ digits, isHex c = true) : EscapeTakes ('\\' :: d :: (digits ++ rest)) rest
  | property (d c : Char) (rest : Text) (hd : d = 'p' ∨ d = 'P') (hc : c ≠ '\\') :
      EscapeTakes ('\\' :: d :: c :: rest) rest

/-- A text of fixed width does not start with a brace. -/
theorem head?_ne_brace_of_isFixedWidth {text : Text} (hfixed : isFixedWidth text = true) :
    text.head? ≠ some '{' := by
  intro hhead
  obtain ⟨rest, rfl⟩ := List.head?_eq_some_iff.mp hhead
  exact absurd (head_ne_of_isFixedWidth hfixed) (by decide)

/-- At the start of a text of fixed width nothing stands between braces. -/
theorem not_braced_of_isFixedWidth {cursor : Cursor} {name : List (Char × Nat)}
    {closing : Char × Nat} (hfixed : isFixedWidth cursor.rest = true) :
    ¬ Braced (cursor.counting false) name closing := by
  rintro ⟨hstart, -⟩
  obtain ⟨rest, hrest, -⟩ := eq_cons_of_zipIdx _ _ hstart
  exact head?_ne_brace_of_isFixedWidth hfixed (congrArg List.head? hrest)

/-- Without braces exactly the asked number of hexadecimal digits is read. -/
theorem scanHex_takes {width : Nat} {d : Char} {cursor behind : Cursor} {sign : Sign}
    (hwidth : 0 < width) (hfixed : isFixedWidth cursor.rest = true)
    (hscan : scanHex false width cursor = .ok (sign, behind)) :
    EscapeTakes ('\\' :: d :: cursor.rest) behind.rest := by
  obtain ⟨digits, last, byte, c, hdigits, hfault, -, -, rfl⟩ := (scanHex_eq_ok_iff hwidth).mp hscan
  cases hdigits with
  | braced hbraced => exact absurd hbraced (not_braced_of_isFixedWidth hfixed)
  | counted hstart hbrace henough hlast =>
      have htaken : (cursor.counting false).take width =
          (cursor.rest.take width).zipIdx cursor.position := take_zipIdx _ _ _
      have hlength : width ≤ cursor.rest.length := henough.trans_eq List.length_zipIdx
      have hsome : cursor.rest.take width ≠ [] := by
        rw [Ne, List.take_eq_nil_iff, not_or, ← List.length_eq_zero_iff]
        omega
      have hstop : last.2 + 1 = cursor.position + width := by
        rw [htaken, List.getLast?_zipIdx, List.getLast?_eq_some_getLast hsome, List.length_take,
          Option.map_some] at hlast
        cases hlast
        dsimp only
        omega
      have hhex : ∀ c ∈ cursor.rest.take width, isHex c = true := by
        intro c hc
        obtain ⟨digit, hdigit, rfl⟩ : ∃ digit ∈ (cursor.rest.take width).zipIdx cursor.position,
            digit.1 = c := by
          rw [← List.mem_map, List.zipIdx_map_fst]
          exact hc
        exact isHex_of_hexFault? hfault digit (htaken ▸ hdigit)
      rw [hstop, rest_moveTo_add]
      have htakes := EscapeTakes.digits d _ (cursor.rest.drop width) hsome hhex
      rwa [List.take_append_drop] at htakes

/-- Without braces a property is named by one letter, which is no backslash. -/
theorem scanProperty_takes {negated : Bool} {d : Char} {cursor behind : Cursor} {sign : Sign}
    (hd : d = 'p' ∨ d = 'P') (hfixed : isFixedWidth cursor.rest = true)
    (hscan : scanProperty false negated cursor = .ok (sign, behind)) :
    EscapeTakes ('\\' :: d :: cursor.rest) behind.rest := by
  obtain ⟨named, last, hnamed, -, rfl⟩ := scanProperty_eq_ok_iff.mp hscan
  cases hnamed with
  | braced hbraced => exact absurd hbraced (not_braced_of_isFixedWidth hfixed)
  | letter hstart hbrace hslash =>
      obtain ⟨rest, hrest, rfl, -⟩ := eq_cons_of_zipIdx _ _ hstart
      rw [rest_moveTo_add, hrest]
      exact EscapeTakes.property d _ rest hd hslash

/-- Without braces a word boundary is named by its letter alone. -/
theorem scanBoundary_rest {start : Nat} {cursor behind : Cursor} {sign : Sign}
    (hfixed : isFixedWidth cursor.rest = true)
    (hscan : scanBoundary false start cursor = .ok (sign, behind)) :
    behind.rest = cursor.rest := by
  obtain ⟨place, hboundary, -⟩ := scanBoundary_eq_ok_iff.mp hscan
  cases hboundary with
  | bare => rfl
  | repetition hbrace => rfl
  | named hbrace => exact absurd hbrace (head?_ne_brace_of_isFixedWidth hfixed)

/-- What an escape of a text of fixed width takes up. -/
theorem scanEscape_takes {text : Text} {position : Nat} {behind : Cursor} {sign : Sign}
    (hfixed : isFixedWidth ('\\' :: text) = true)
    (hscan : scanEscape false ⟨'\\' :: text, position⟩ = .ok (sign, behind)) :
    EscapeTakes ('\\' :: text) behind.rest := by
  cases text with
  | nil => cases hscan
  | cons d rest =>
      have hrest : isFixedWidth rest = true := hfixed
      simp only [scanEscape, List.drop_succ_cons, List.drop_zero] at hscan
      split at hscan
      · cases hscan
      · split at hscan
        · cases hscan
          exact EscapeTakes.letter d rest
        · split at hscan
          · exact scanHex_takes (by decide) hrest hscan
          · exact scanHex_takes (by decide) hrest hscan
          · exact scanHex_takes (by decide) hrest hscan
          · exact scanProperty_takes (.inl rfl) hrest hscan
          · exact scanProperty_takes (.inr rfl) hrest hscan
          all_goals first
            | cases hscan; done
            | cases hscan
              exact EscapeTakes.letter _ rest
            | rw [scanBoundary_rest (by exact hrest) hscan]
              exact EscapeTakes.letter _ rest

namespace EscapeTakes

variable {text rest : Text}

/-- What is left behind an escape is left behind its backslash. -/
theorem suffix (htakes : EscapeTakes text rest) : rest <:+ text.tail := by
  cases htakes with
  | letter d rest => exact List.suffix_cons d rest
  | digits d digits rest hsome hhex =>
      exact (List.suffix_append digits rest).trans (List.suffix_cons d _)
  | property d c rest hd hc => exact (List.suffix_cons c rest).trans (List.suffix_cons d _)

/-- Behind an escape a text stays of fixed width. -/
theorem isFixedWidth (htakes : EscapeTakes text rest) (hfixed : isFixedWidth text = true) :
    isFixedWidth rest = true := by
  cases htakes with
  | letter d rest => exact hfixed
  | digits d digits rest hsome hhex =>
      refine isFixedWidth_of_append (fun hslash => ?_) hfixed
      exact absurd (hhex '\\' hslash) (by decide)
  | property d c rest hd hc => exact isFixedWidth_tail hc hfixed

/-- An escape cannot take up the anchor at the end of a text. -/
theorem ne_nil (htakes : EscapeTakes text rest) (hanchor : [')', '$'] <:+ text) : rest ≠ [] := by
  rintro rfl
  obtain ⟨front, hfront⟩ := hanchor
  cases htakes with
  | letter d =>
      have hreverse := congrArg List.reverse hfront
      simp at hreverse
  | digits d digits rest hsome hhex =>
      have hlast : (['\\', d] ++ digits).getLast? = some '$' := by
        have hends := congrArg List.getLast? hfront
        simpa using hends.symm
      rw [List.getLast?_append_of_ne_nil _ hsome] at hlast
      exact absurd (hhex '$' (List.mem_of_getLast? hlast)) (by decide)
  | property d c rest hd hc =>
      have hreverse := congrArg List.reverse hfront
      simp at hreverse
      rcases hd with rfl | rfl <;> simp at hreverse

end EscapeTakes

end Orthography.Pattern
