import Orthography.Proofs.Affix.Layout

/-!
# Blanks, remarks and ends of lines

The reader of affix files looks at the columns of each line and at nothing else, so files whose
lines have the same columns are read alike, with the same notes (`Statement.readFrom_of_columns`).
The columns of a line stay as they are if its blanks are replaced by others, if blanks are put at
one of its ends, or if a remark is put behind it (`Statement.LineRespaced.columns_eq`).

Lines may end in two ways, and a file may start with a byte order mark.  None of this matters for
what is read (`Grammar.read_of_respaced`).
-/

namespace Orthography

open Character (isBlank)

namespace Statement

/-! ### Lines with the same columns -/

section Columns

variable {kind : AffixKind} {line other : Text} {lines others : List Text}

/-- An entry is read from the columns of its line. -/
theorem readEntry_of_columns (hcolumns : columns other = columns line) :
    readEntry kind other = readEntry kind line := by
  simp only [readEntry, hcolumns]

/-- What is read from each of some numbered lines by its columns. -/
theorem map_zipIdx_of_columns {β : Type} {read : Text × Nat → β}
    (hread : ∀ line other number, columns other = columns line →
      read (other, number) = read (line, number))
    (hcolumns : others.map columns = lines.map columns) (number : Nat) :
    (others.zipIdx number).map read = (lines.zipIdx number).map read := by
  induction lines generalizing others number with
  | nil => rw [List.map_eq_nil_iff.mp hcolumns]
  | cons line lines ih =>
      obtain ⟨other, others, rfl, hline, hlines⟩ := List.map_eq_cons_iff.mp hcolumns
      simp only [List.zipIdx_cons, List.map_cons, hread line other number hline, ih hlines]

/-- The entries of a rule are read from the columns of its lines. -/
theorem readEntries_of_columns (hcolumns : others.map columns = lines.map columns) (number : Nat) :
    readEntries kind number others = readEntries kind number lines := by
  refine congrArg Logged.gather (map_zipIdx_of_columns ?_ hcolumns number)
  intro line other place hsame
  simp only [readNumberedEntry, readEntry_of_columns hsame]

/-- Compound rules are read from the columns of their lines. -/
theorem readCompounds_of_columns (hcolumns : others.map columns = lines.map columns)
    (number : Nat) : readCompounds number others = readCompounds number lines := by
  refine congrArg Logged.gather (map_zipIdx_of_columns ?_ hcolumns number)
  intro line other place hsame
  simp only [readNumberedCompound, hsame]

/-- Lines with the same columns are read alike. -/
theorem readFrom_of_columns (hcolumns : others.map columns = lines.map columns) (number : Nat) :
    readFrom number others = readFrom number lines := by
  induction lines using blocks_induction generalizing others number with
  | nil => rw [List.map_eq_nil_iff.mp hcolumns]
  | cons line rest ih =>
      obtain ⟨other, others, rfl, hline, hrest⟩ := List.map_eq_cons_iff.mp hcolumns
      have hlength : others.length = rest.length := by
        simpa only [List.length_map] using congrArg List.length hrest
      have htake (count : Nat) :
          (others.take count).map columns = (rest.take count).map columns := by
        rw [List.map_take, hrest, List.map_take]
      have hbehind (header : Header) (hheader : readHeader (columns line) = header) (next : Nat) :
          readFrom next (others.drop header.count) = readFrom next (rest.drop header.count) := by
        subst hheader
        refine ih ?_ next
        rw [List.map_drop, hrest, List.map_drop]
        rfl
      rw [readFrom, readFrom, hline]
      cases hheader : readHeader (columns line) with
      | blank => exact hbehind _ hheader (number + 1)
      | malformed directive =>
          exact congrArg (Logged.bind _ fun _ => ·) (hbehind _ hheader (number + 1))
      | rule kind code combinable count =>
          have hdropped (next : Nat) : readFrom next (others.drop count) =
              readFrom next (rest.drop count) := hbehind _ hheader next
          simp only [hlength, readEntries_of_columns (htake count), hdropped]
      | compounds count =>
          have hdropped (next : Nat) : readFrom next (others.drop count) =
              readFrom next (rest.drop count) := hbehind _ hheader next
          simp only [hlength, readCompounds_of_columns (htake count), hdropped]
      | single statement => exact congrArg (Logged.bind · _) (hbehind _ hheader (number + 1))

end Columns

/-! ### Blanks and remarks in a line -/

section Line

variable {front tail other gap : Text}

/-- What follows the comment of a line belongs to it. -/
theorem beforeComment_append_of_cut {afterBlank : Bool}
    (hcut : beforeComment afterBlank front ≠ front) (tail : Text) :
    beforeComment afterBlank (front ++ tail) = beforeComment afterBlank front := by
  induction front generalizing afterBlank with
  | nil => exact absurd rfl hcut
  | cons c front ih =>
      rw [beforeComment] at hcut
      rw [List.cons_append, beforeComment, beforeComment]
      split
      · rfl
      · rename_i hsign
        rw [if_neg hsign] at hcut
        rw [ih fun hsame => hcut (congrArg (c :: ·) hsame)]

/-- Behind a blank, only the columns matter of how a line goes on. -/
theorem columns_append_congr (front : Text) (htail : ∀ c ∈ tail.head?, isBlank c = true)
    (hother : ∀ c ∈ other.head?, isBlank c = true) (hcolumns : columns other = columns tail) :
    columns (front ++ other) = columns (front ++ tail) := by
  by_cases huncommented : beforeComment true front = front
  · rw [columns_append huncommented htail, columns_append huncommented hother, hcolumns]
  · rw [columns, columns, beforeComment_append_of_cut huncommented,
      beforeComment_append_of_cut huncommented]

/-- Blanks behind a line add no column. -/
theorem columns_append_gap (line : Text) (hgap : ∀ c ∈ gap, isBlank c = true) :
    columns (line ++ gap) = columns line := by
  have hnone : columns gap = columns [] := by
    simpa only [List.append_nil] using columns_gap_append hgap []
  have hhead : ∀ c ∈ gap.head?, isBlank c = true := fun c hc => hgap c (List.mem_of_mem_head? hc)
  simpa only [List.append_nil] using columns_append_congr line (by simp) hhead hnone

/-- A line, and the line with other blanks between two of its parts, with blanks at one of its ends,
or with a remark behind it. -/
inductive LineRespaced : (line other : Text) → Prop
  | between (front back : Text) {gap other : Text} (hgap : IsGap gap) (hother : IsGap other) :
      LineRespaced (front ++ (gap ++ back)) (front ++ (other ++ back))
  | front {gap : Text} (hgap : ∀ c ∈ gap, isBlank c = true) (line : Text) :
      LineRespaced line (gap ++ line)
  | behind (line : Text) {gap : Text} (hgap : ∀ c ∈ gap, isBlank c = true) :
      LineRespaced line (line ++ gap)
  | remark (line : Text) {gap : Text} (hgap : IsGap gap) (remark : Text) :
      LineRespaced line (line ++ (gap ++ '#' :: remark))

/-- The columns of a line do not depend on its blanks and remarks. -/
theorem LineRespaced.columns_eq {line other : Text} (hrespaced : LineRespaced line other) :
    columns other = columns line := by
  cases hrespaced with
  | between front back hgap hother =>
      refine columns_append_congr front (hgap.head back) (hother.head back) ?_
      rw [columns_gap_append hgap.blank, columns_gap_append hother.blank]
  | front hgap line => exact columns_gap_append hgap line
  | behind line hgap => exact columns_append_gap line hgap
  | remark line hgap remark =>
      have hnone : columns (_ ++ '#' :: remark) = columns [] := columns_gap_append hgap.blank _
      simpa only [List.append_nil] using columns_append_congr line (by simp) (hgap.head _) hnone

/-- A line starts as before, or with a blank. -/
theorem LineRespaced.head?_append {line other : Text} (hrespaced : LineRespaced line other)
    (after : Text) :
    (other ++ after).head? = (line ++ after).head? ∨
      ∃ c, (other ++ after).head? = some c ∧ isBlank c = true := by
  have hstart (gap rest : Text) (hgap : ∀ c ∈ gap, isBlank c = true) :
      (gap ++ rest).head? = rest.head? ∨
        ∃ c, (gap ++ rest).head? = some c ∧ isBlank c = true := by
    cases gap with
    | nil => exact .inl rfl
    | cons c gap => exact .inr ⟨c, rfl, hgap c List.mem_cons_self⟩
  have hfilled (gap rest : Text) (hgap : IsGap gap) :
      ∃ c, (gap ++ rest).head? = some c ∧ isBlank c = true := by
    obtain ⟨c, gap, rfl⟩ := List.exists_cons_of_ne_nil hgap.ne_nil
    exact ⟨c, rfl, hgap.blank c List.mem_cons_self⟩
  cases hrespaced with
  | between front back hgap hother =>
      cases front with
      | nil => exact .inr (by simpa using hfilled _ (back ++ after) hother)
      | cons c front => exact .inl rfl
  | front hgap line => exact (List.append_assoc _ line after) ▸ hstart _ (line ++ after) hgap
  | behind line hgap =>
      cases line with
      | nil => exact hstart _ after hgap
      | cons c line => exact .inl rfl
  | remark line hgap remark =>
      cases line with
      | nil => exact .inr (by simpa using hfilled _ ('#' :: remark ++ after) hgap)
      | cons c line => exact .inl rfl

end Line

/-! ### The lines of a text -/

/-- The carriage return at the end of a line adds no column. -/
theorem columns_dropLast (line : Text) : columns (Text.dropLast '\r' line) = columns line := by
  unfold Text.dropLast
  split
  · rename_i hlast
    obtain ⟨begun, rfl⟩ := List.getLast?_eq_some_iff.mp hlast
    have hgap : ∀ c ∈ ['\r'], isBlank c = true := List.forall_mem_singleton.mpr (by decide)
    rw [List.dropLast_concat, columns_append_gap begun hgap]
  · rfl

/-- The columns of the first line of a text, and of the lines behind it. -/
theorem map_columns_lines {line : Text} (hfeed : '\n' ∉ line) (rest : Text) :
    (Text.lines (line ++ '\n' :: rest)).map columns =
      columns line :: (Text.lines rest).map columns := by
  rw [Text.lines_cons hfeed, List.map_cons, columns_dropLast]

/-- The columns of the lines of a text do not depend on how its first line ends. -/
theorem map_columns_lines_return {line : Text} (hfeed : '\n' ∉ line) (rest : Text) :
    (Text.lines (line ++ '\r' :: '\n' :: rest)).map columns =
      columns line :: (Text.lines rest).map columns := by
  have hback : '\n' ∉ line ++ ['\r'] := by simp [hfeed]
  have hgap : ∀ c ∈ ['\r'], isBlank c = true := List.forall_mem_singleton.mpr (by decide)
  have hlines := map_columns_lines hback rest
  rwa [columns_append_gap line hgap, List.append_assoc] at hlines

end Statement

/-- A text in which every line feed stands behind a carriage return. -/
def Text.withReturns : Text → Text
  | '\r' :: '\n' :: rest => '\r' :: '\n' :: withReturns rest
  | '\n' :: rest => '\r' :: '\n' :: withReturns rest
  | c :: rest => c :: withReturns rest
  | [] => []

/-- No byte order mark gets in front of a text by its line feeds. -/
theorem Text.head?_withReturns {text : Text} (hmark : text.head? ≠ some byteOrderMark) :
    text.withReturns.head? ≠ some byteOrderMark := by
  have hreturn : '\r' ≠ byteOrderMark := by decide
  unfold withReturns
  split
  · simpa using hreturn
  · simpa using hreturn
  · simpa using hmark
  · exact hmark

namespace Statement

/-- Carriage returns in front of line feeds leave the columns of all lines as they are. -/
theorem map_columns_lines_withReturns {front : Text} (hfront : '\n' ∉ front) (text : Text) :
    (Text.lines (front ++ text.withReturns)).map columns =
      (Text.lines (front ++ text)).map columns := by
  -- The characters since the last line feed are in `front`.
  fun_induction Text.withReturns text generalizing front with
  | case1 rest ih =>
      rw [map_columns_lines_return hfront, map_columns_lines_return hfront]
      exact congrArg (columns front :: ·) (ih List.not_mem_nil)
  | case2 rest ih =>
      rw [map_columns_lines_return hfront, map_columns_lines hfront]
      exact congrArg (columns front :: ·) (ih List.not_mem_nil)
  | case3 c rest hreturned hfeed ih =>
      have hnext : '\n' ∉ front ++ [c] := by
        simpa [hfront] using fun hsame : '\n' = c => hfeed hsame.symm
      simpa only [List.append_assoc, List.singleton_append] using ih hnext
  | case4 => rfl

/-! ### Texts with the same lines -/

/-- What may stand behind a line: a line feed, be it behind a carriage return, or nothing if the
line is not empty. -/
inductive EndsLine (line : Text) : (after : Text) → Prop
  | feed (rest : Text) : EndsLine line ('\n' :: rest)
  | returned (rest : Text) : EndsLine line ('\r' :: '\n' :: rest)
  | last (hsome : line ≠ []) : EndsLine line []

/-- A text, and the text with one of its lines respaced, with all its lines ending in carriage
returns and line feeds, or with a byte order mark. -/
inductive Respaced : (text other : Text) → Prop
  | line {before line other after : Text} (hbefore : before = [] ∨ before.getLast? = some '\n')
      (hline : '\n' ∉ line) (hother : '\n' ∉ other) (hafter : EndsLine line after)
      (hrespaced : LineRespaced line other) :
      Respaced (before ++ (line ++ after)) (before ++ (other ++ after))
  | returns (text : Text) : Respaced text text.withReturns
  | mark (text : Text) : Respaced text (Text.byteOrderMark :: text)

/-- A line that is respaced is not emptied. -/
theorem LineRespaced.ne_nil {line other : Text} (hrespaced : LineRespaced line other)
    (hsome : line ≠ []) : other ≠ [] := by
  cases hrespaced with
  | between front back hgap hother => simp [hother.ne_nil]
  | front hgap line => simp [hsome]
  | behind line hgap => simp [hsome]
  | remark line hgap remark => simp

/-- The columns of a text whose first line is respaced. -/
theorem map_columns_lines_respaced {line other after : Text} (hline : '\n' ∉ line)
    (hother : '\n' ∉ other) (hafter : EndsLine line after) (hrespaced : LineRespaced line other) :
    (Text.lines (other ++ after)).map columns = (Text.lines (line ++ after)).map columns := by
  have hcolumns := hrespaced.columns_eq
  cases hafter with
  | feed rest => rw [map_columns_lines hother, map_columns_lines hline, hcolumns]
  | returned rest => rw [map_columns_lines_return hother, map_columns_lines_return hline, hcolumns]
  | last hsome =>
      rw [List.append_nil, List.append_nil, Text.lines_eq_singleton hline hsome,
        Text.lines_eq_singleton hother (hrespaced.ne_nil hsome), List.map_singleton,
        List.map_singleton, hcolumns]

/-- A respaced text has lines with the same columns. -/
theorem Respaced.map_columns_eq {text other : Text} (hrespaced : Respaced text other)
    (hmark : text.head? ≠ some Text.byteOrderMark) :
    (Text.lines (Text.dropMark other)).map columns =
      (Text.lines (Text.dropMark text)).map columns := by
  rw [Text.dropMark_of_head? hmark]
  cases hrespaced with
  | line hbefore hline hother hafter hrespaced =>
      rename_i before line other after
      have hunmarked : (before ++ (other ++ after)).head? ≠ some Text.byteOrderMark := by
        cases before with
        | cons c before => exact hmark
        | nil =>
            rcases hrespaced.head?_append after with hsame | ⟨c, hc, hblank⟩
            · exact hsame ▸ hmark
            · rintro hfound
              cases hc.symm.trans hfound
              exact absurd hblank (by decide)
      rw [Text.dropMark_of_head? hunmarked, Text.lines_append hbefore, Text.lines_append hbefore,
        List.map_append, List.map_append, map_columns_lines_respaced hline hother hafter hrespaced]
  | returns text =>
      rw [Text.dropMark_of_head? (Text.head?_withReturns hmark)]
      exact map_columns_lines_withReturns List.not_mem_nil text
  | mark text => rw [Text.dropMark_cons, if_pos rfl]

/-- Texts whose lines have the same columns are read alike. -/
theorem readAll_of_columns {text other : Text}
    (hcolumns : (Text.lines (Text.dropMark other)).map columns =
      (Text.lines (Text.dropMark text)).map columns) : readAll other = readAll text :=
  readFrom_of_columns hcolumns 1

end Statement

/-- An affix file without a byte order mark that is respaced is read as the same grammar, or fails
with the same error, and the same notes are made. -/
theorem Grammar.read_of_respaced {text other : Text}
    (hmark : text.head? ≠ some Text.byteOrderMark) (hrespaced : Statement.Respaced text other) :
    Grammar.read other = Grammar.read text := by
  unfold Grammar.read
  rw [Statement.readAll_of_columns (hrespaced.map_columns_eq hmark)]

/-- A file with a remark behind the entry of a rule, with other ends of lines, and with a byte order
mark. -/
theorem Grammar.read_of_respaced_remarked :
    let text := "SFX A Y 1\nSFX A 0 s .\nNOSUGGEST N#S\n".toList
    let other := "SFX A Y 1\nSFX A 0 s .\t # plural\nNOSUGGEST N#S\n".toList
    text.head? ≠ some Text.byteOrderMark ∧ Statement.Respaced text other ∧
      Grammar.read other = Grammar.read text ∧
      Grammar.read (Text.withReturns text) = Grammar.read text ∧
      Grammar.read (Text.byteOrderMark :: text) = Grammar.read text ∧
      ((Grammar.read text).value.map (·.rules.size)).toOption = some 1 := by
  intro text other
  have hmark : text.head? ≠ some Text.byteOrderMark := by decide +kernel
  have hgap : Statement.IsGap "\t ".toList := ⟨by decide, List.all_eq_true.mp (by decide)⟩
  have htext : text = "SFX A Y 1\n".toList ++
      ("SFX A 0 s .".toList ++ "\nNOSUGGEST N#S\n".toList) := by decide +kernel
  have hother : other = "SFX A Y 1\n".toList ++
      (("SFX A 0 s .".toList ++ ("\t ".toList ++ '#' :: " plural".toList)) ++
        "\nNOSUGGEST N#S\n".toList) := by decide +kernel
  have hrespaced : Statement.Respaced text other := by
    rw [htext, hother]
    exact .line (.inr (by decide)) (by decide) (by decide) (.feed _) (.remark _ hgap _)
  exact ⟨hmark, hrespaced, Grammar.read_of_respaced hmark hrespaced,
    Grammar.read_of_respaced hmark (.returns text), Grammar.read_of_respaced hmark (.mark text),
    by decide +kernel⟩

end Orthography
