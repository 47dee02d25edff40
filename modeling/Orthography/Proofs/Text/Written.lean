import Mathlib.Data.List.Basic
import Orthography.Proofs.Text.Cutting
import Orthography.Text.Basic

/-!
# Writing lines

The inverse of cutting: columns are written into a row with a blank between them, lines into a text
with a line feed behind each of them, and counts as decimal numerals.  What was written is read back
by `Text.columns`, `Text.lines` and `Text.count?`.
-/

namespace Orthography.Text

open Character (isBlank)

/-! ### Rows -/

/-- A row of columns. -/
def row (columns : List Text) : Text := [' '].intercalate columns

/-- A row of one column is the column. -/
theorem row_singleton (column : Text) : row [column] = column := List.intercalate_singleton

/-- There is a blank behind each column but the last. -/
theorem row_cons_cons (first second : Text) (columns : List Text) :
    row (first :: second :: columns) = first ++ ' ' :: row (second :: columns) := by
  rw [row, List.intercalate_cons_cons, List.append_assoc]
  rfl

/-- The pieces of a row are its columns. -/
theorem splitOnP_row {columns : List Text} (hsome : columns ≠ [])
    (hcolumns : ∀ column ∈ columns, ∀ c ∈ column, isBlank c = false) :
    (row columns).splitOnP isBlank = columns := by
  induction columns with
  | nil => exact absurd rfl hsome
  | cons first columns ih =>
      obtain ⟨hfirst, hrest⟩ := List.forall_mem_cons.mp hcolumns
      cases columns with
      | nil => rw [row_singleton, List.splitOnP_eq_singleton hfirst]
      | cons second columns =>
          rw [row_cons_cons, List.splitOnP_append_cons _ _ (by decide),
            List.splitOnP_eq_singleton hfirst, ih (List.cons_ne_nil _ _) hrest]
          rfl

/-- What holds of all characters of some texts holds of all characters of the texts put together, but
for those between them. -/
theorem eq_or_of_mem_intercalate {between : Char} {texts : List Text} {holds : Char → Prop}
    (htexts : ∀ text ∈ texts, ∀ c ∈ text, holds c) :
    ∀ c ∈ [between].intercalate texts, c = between ∨ holds c := by
  induction texts with
  | nil => exact fun c hc => absurd hc List.not_mem_nil
  | cons first texts ih =>
      obtain ⟨hfirst, hrest⟩ := List.forall_mem_cons.mp htexts
      cases texts with
      | nil => exact fun c hc => .inr (hfirst c (by rwa [List.intercalate_singleton] at hc))
      | cons second texts =>
          intro c hc
          rw [List.intercalate_cons_cons, List.append_assoc, List.singleton_append,
            List.mem_append, List.mem_cons] at hc
          rcases hc with hc | rfl | hc
          · exact .inr (hfirst c hc)
          · exact .inl rfl
          · exact ih hrest c hc

/-- Columns that are not empty are read back. -/
theorem columns_row {columns : List Text}
    (hcolumns : ∀ column ∈ columns, column ≠ [] ∧ ∀ c ∈ column, isBlank c = false) :
    Text.columns (row columns) = columns := by
  by_cases hsome : columns = []
  · rw [hsome]
    rfl
  · rw [Text.columns, Text.split, splitOnP_row hsome fun column hcolumn => (hcolumns column hcolumn).2]
    exact List.filter_eq_self.mpr fun column hcolumn => by simpa using (hcolumns column hcolumn).1

/-! ### Lines -/

/-- The text with some lines. -/
def ofLines (lines : List Text) : Text := lines.flatMap (· ++ ['\n'])

/-- Lines that hold no line feed and do not end in a carriage return are read back. -/
theorem lines_ofLines {written : List Text}
    (hwritten : ∀ line ∈ written, '\n' ∉ line ∧ line.getLast? ≠ some '\r') :
    lines (ofLines written) = written := by
  induction written with
  | nil => rfl
  | cons line written ih =>
      obtain ⟨⟨hfeed, hback⟩, hrest⟩ := List.forall_mem_cons.mp hwritten
      have hkept : dropLast '\r' line = line := if_neg hback
      rw [ofLines, List.flatMap_cons, ← ofLines, List.append_assoc, List.singleton_append,
        lines_cons hfeed, ih hrest, hkept]

/-- The last line may go without its line feed, if it is not empty. -/
theorem lines_ofLines_append {written : List Text} {last : Text}
    (hwritten : ∀ line ∈ written, '\n' ∉ line ∧ line.getLast? ≠ some '\r')
    (hfeed : '\n' ∉ last) (hsome : last ≠ []) :
    lines (ofLines written ++ last) = written ++ [last] := by
  have hends : ofLines written = [] ∨ (ofLines written).getLast? = some '\n' := by
    rcases List.eq_nil_or_concat written with rfl | ⟨others, line, rfl⟩
    · exact .inl rfl
    · exact .inr (by simp [ofLines])
  rw [lines_append hends, lines_ofLines hwritten, lines_eq_singleton hfeed hsome]

/-! ### Numerals -/

/-- The decimal numeral of a count. -/
def numeral (count : Nat) : Text := Nat.toDigits 10 count

/-- Numerals consist of digits. -/
theorem isDigit_of_mem_numeral {count : Nat} {c : Char} (hc : c ∈ numeral count) :
    c.isDigit = true :=
  Nat.isDigit_of_mem_toDigits (by decide) (by decide) hc

/-- A numeral is not empty. -/
theorem numeral_ne_nil (count : Nat) : numeral count ≠ [] := Nat.toDigits_ne_nil

/-- A numeral stands for its number. -/
theorem natural?_numeral (count : Nat) : natural? (numeral count) = some count := by
  have hdigits : (numeral count).all Char.isDigit = true :=
    List.all_eq_true.mpr fun c hc => isDigit_of_mem_numeral hc
  have hvalue : digitsValue (numeral count) = count :=
    Nat.ofDigitChars_toDigits (by decide) (by decide)
  rw [natural?, hdigits, hvalue]
  simp [numeral_ne_nil count]

/-- A numeral is read back, if the count is below the limit. -/
theorem count?_numeral {count : Nat} (hcount : count < countLimit) :
    count? (numeral count) = some count := by
  have hsign : ∀ rest, numeral count ≠ '+' :: rest := fun rest hplus =>
    absurd (isDigit_of_mem_numeral (hplus ▸ List.mem_cons_self)) (by decide)
  unfold count?
  dsimp only
  split
  · rename_i rest hplus
    exact absurd hplus (hsign rest)
  · rw [natural?_numeral]
    exact Option.filter_some_pos (by simpa using hcount)

end Orthography.Text
