import Mathlib.Data.List.Basic
import Orthography.Text.Basic

/-!
# Cutting texts that are put together

Where two texts meet at a separator, the pieces of both follow each other.  So the lines of a text
that ends with a line feed and of whatever follows it are the lines of the one and then those of the
other (`Text.lines_append`).
-/

namespace Orthography.Text

section Split

variable {α : Type} {separates : α → Bool}

/-- Members in front that are no separators belong to the first piece. -/
theorem splitOnP_append_of_forall {first : List α}
    (hfirst : ∀ item ∈ first, separates item = false) (second : List α) :
    (first ++ second).splitOnP separates =
      (second.splitOnP separates).modifyHead (first ++ ·) := by
  induction first with
  | nil => exact (congrFun List.modifyHead_id (second.splitOnP separates)).symm
  | cons item items ih =>
      obtain ⟨hitem, hitems⟩ := List.forall_mem_cons.mp hfirst
      rw [List.cons_append, List.splitOnP_cons_eq_if_modifyHead, hitem, ih hitems]
      simp [Function.comp_def]

/-- No separator is left in a piece. -/
theorem separates_of_mem_splitOnP {items piece : List α}
    (hpiece : piece ∈ items.splitOnP separates) : ∀ item ∈ piece, separates item = false := by
  induction items generalizing piece with
  | nil =>
      rw [List.splitOnP_nil, List.mem_singleton] at hpiece
      exact hpiece ▸ nofun
  | cons first items ih =>
      rw [List.splitOnP_cons_eq_if_modifyHead] at hpiece
      split at hpiece
      · rcases List.mem_cons.mp hpiece with rfl | hpiece
        · nofun
        · exact ih hpiece
      · rename_i hfirst
        obtain ⟨head, others, hpieces⟩ :=
          List.exists_cons_of_ne_nil (List.splitOnP_ne_nil separates items)
        rw [hpieces, List.modifyHead_cons] at hpiece
        rw [hpieces] at ih
        rcases List.mem_cons.mp hpiece with rfl | hpiece
        · exact List.forall_mem_cons.mpr ⟨by simpa using hfirst, ih List.mem_cons_self⟩
        · exact ih (List.mem_cons_of_mem _ hpiece)

end Split

/-- No blank is left in a column. -/
theorem isBlank_of_mem_columns {text column : Text} (hcolumn : column ∈ columns text) :
    ∀ c ∈ column, Character.isBlank c = false :=
  separates_of_mem_splitOnP (List.mem_of_mem_filter hcolumn)

/-- The lines of two lists with the end of a line between them. -/
theorem linesBy_append_cons {α : Type} [DecidableEq α] (feed back : α) (first second : List α) :
    linesBy feed back (first ++ feed :: second) =
      (first.splitOn feed).map (dropLast back) ++ linesBy feed back second := by
  have hlast := List.splitOn_ne_nil feed second
  simp only [linesBy, List.splitOn_append_cons_self, List.dropLast_append_of_ne_nil hlast,
    List.map_append, List.getLast?_append_of_ne_nil _ hlast, List.append_assoc]

/-- A list that is empty or ends with the end of a line keeps its lines when another follows. -/
theorem linesBy_append {α : Type} [DecidableEq α] {feed : α} (back : α) {first : List α}
    (hends : first = [] ∨ first.getLast? = some feed) (second : List α) :
    linesBy feed back (first ++ second) = linesBy feed back first ++ linesBy feed back second := by
  rcases hends with rfl | hends
  · rfl
  · obtain ⟨begun, rfl⟩ := List.getLast?_eq_some_iff.mp hends
    have hnone : linesBy feed back [] = [] := rfl
    rw [List.append_assoc, List.singleton_append, linesBy_append_cons, linesBy_append_cons, hnone,
      List.append_nil]

/-- The lines of two texts with a line feed between them. -/
theorem lines_append_feed (first second : Text) :
    lines (first ++ '\n' :: second) =
      (first.splitOn '\n').map (dropLast '\r') ++ lines second :=
  linesBy_append_cons '\n' '\r' first second

/-- A text that is empty or ends with a line feed keeps its lines when another text follows. -/
theorem lines_append {first : Text} (hends : first = [] ∨ first.getLast? = some '\n')
    (second : Text) : lines (first ++ second) = lines first ++ lines second :=
  linesBy_append '\r' hends second

/-- A text without a line feed is one line, if it is not empty. -/
theorem lines_eq_singleton {text : Text} (hfeed : '\n' ∉ text) (hsome : text ≠ []) :
    lines text = [text] := by
  simp [lines, linesBy, List.splitOn_eq_singleton hfeed, hsome]

/-- A text starts with the line in front of its first line feed. -/
theorem lines_cons {line : Text} (hfeed : '\n' ∉ line) (rest : Text) :
    lines (line ++ '\n' :: rest) = dropLast '\r' line :: lines rest := by
  rw [lines_append_feed, List.splitOn_eq_singleton hfeed, List.map_singleton,
    List.singleton_append]

/-- A property of all texts that holds of those without a line feed and passes from what is behind
a line to the line with it. -/
theorem lines_induction {P : Text → Prop} (last : ∀ text, '\n' ∉ text → P text)
    (cons : ∀ line rest, '\n' ∉ line → P rest → P (line ++ '\n' :: rest)) (text : Text) :
    P text := by
  induction hlength : text.length using Nat.strongRecOn generalizing text with
  | ind length ih =>
      by_cases hfeed : '\n' ∈ text
      · obtain ⟨line, rest, rfl, hline⟩ := List.eq_append_cons_of_mem hfeed
        refine cons line rest hline (ih _ ?_ rest rfl)
        rw [← hlength, List.length_append, List.length_cons]
        omega
      · exact last text hfeed

/-! ### The byte order mark -/

/-- Only a mark in front is dropped. -/
theorem dropMark_cons (c : Char) (text : Text) :
    dropMark (c :: text) = if c = byteOrderMark then text else c :: text := by
  by_cases hc : byteOrderMark = c
  · simp [dropMark, List.isPrefixOf?, hc]
  · simp [dropMark, List.isPrefixOf?, hc, Ne.symm hc]

/-- A text without the mark in front stays as it is. -/
theorem dropMark_of_head? {text : Text} (hmark : text.head? ≠ some byteOrderMark) :
    dropMark text = text := by
  cases text with
  | nil => rfl
  | cons c text => rw [dropMark_cons, if_neg (by simpa using hmark)]

/-- What stands in front of a text without the mark keeps its own to itself. -/
theorem dropMark_append (first : Text) {second : Text}
    (hmark : second.head? ≠ some byteOrderMark) :
    dropMark (first ++ second) = dropMark first ++ second := by
  cases first with
  | nil => exact dropMark_of_head? hmark
  | cons c first =>
      rw [List.cons_append, dropMark_cons, dropMark_cons]
      split <;> rfl

/-- A file that holds more than the mark ends as it does without it. -/
theorem getLast?_dropMark {text : Text} (hsome : dropMark text ≠ []) :
    (dropMark text).getLast? = text.getLast? := by
  cases text with
  | nil => rfl
  | cons c text =>
      rw [dropMark_cons] at hsome ⊢
      split
      · rename_i hc
        rw [if_pos hc] at hsome
        rw [List.getLast?_cons, List.getLast?_eq_some_getLast hsome, Option.getD_some]
      · rfl

/-- A text keeps the end of its last line without the mark. -/
theorem ends_dropMark {text : Text} (hends : text = [] ∨ text.getLast? = some '\n') :
    dropMark text = [] ∨ (dropMark text).getLast? = some '\n' := by
  by_cases hsome : dropMark text = []
  · exact .inl hsome
  · rcases hends with rfl | hends
    · exact absurd rfl hsome
    · exact .inr ((getLast?_dropMark hsome).trans hends)

/-- A file has as many lines without the mark, if it holds more than that. -/
theorem length_lines_dropMark_of_ne_nil {text : Text} (hsome : dropMark text ≠ []) :
    (lines (dropMark text)).length = (lines text).length := by
  cases text with
  | nil => rfl
  | cons c text =>
      rw [dropMark_cons] at hsome ⊢
      split
      · rename_i hc
        rw [if_pos hc] at hsome
        have hmark : '\n' ≠ c := hc ▸ by decide
        by_cases hfeed : '\n' ∈ text
        · obtain ⟨line, rest, rfl, hline⟩ := List.eq_append_cons_of_mem hfeed
          have hfirst : '\n' ∉ c :: line := by simp [hmark, hline]
          rw [lines_cons hline, ← List.cons_append, lines_cons hfirst, List.length_cons,
            List.length_cons]
        · have hfirst : '\n' ∉ c :: text := by simp [hmark, hfeed]
          rw [lines_eq_singleton hfeed hsome, lines_eq_singleton hfirst (List.cons_ne_nil _ _)]
          rfl
      · rfl

/-- A file has as many lines without the mark, if its last line has an end. -/
theorem length_lines_dropMark {text : Text} (hends : text = [] ∨ text.getLast? = some '\n') :
    (lines (dropMark text)).length = (lines text).length := by
  rcases hends with rfl | hends
  · rfl
  · refine length_lines_dropMark_of_ne_nil ?_
    obtain ⟨begun, rfl⟩ := List.getLast?_eq_some_iff.mp hends
    rw [dropMark_append begun (by decide)]
    exact List.append_ne_nil_of_right_ne_nil _ (List.cons_ne_nil _ _)

end Orthography.Text
