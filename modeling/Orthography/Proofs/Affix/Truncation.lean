import Orthography.Proofs.Affix.Concatenation
import Orthography.Proofs.Affix.Spacing

/-!
# Truncated files

The one error of an affix file is a block that asks for more lines than follow its header.  The
error says where that header is, how many lines it asks for and how many there are, and so how many
are missing: with fewer blank lines behind the file than that, the same block is cut short, and with
as many or more the file can be read (`Grammar.read_of_truncated`).

What comes before the block does not matter, for all of it is complete.  What the blank lines add is
read as no statement, and as no entry of the block either.
-/

namespace Orthography

open Character (isBlank)

namespace Statement

/-! ### Where a file is truncated -/

section Truncated

variable {number : Nat} {lines more : List Text} {block : TruncatedBlock}

/-- Some lines, of which the first has a number, are truncated: the first block asks for more lines
than there are, or it is complete and the lines behind it are truncated. -/
inductive Truncated : (number : Nat) → (lines : List Text) → TruncatedBlock → Prop
  | short {number : Nat} {line : Text} {rest : List Text}
      (hshort : rest.length < (headerOf line).count) :
      Truncated number (line :: rest)
        ⟨(headerOf line).directive, number, (headerOf line).count, rest.length⟩
  | behind {number : Nat} {line : Text} {rest : List Text} {block : TruncatedBlock}
      (hlong : (headerOf line).count ≤ rest.length)
      (hrest : Truncated (number + 1 + (headerOf line).count)
        (rest.drop (headerOf line).count) block) :
      Truncated number (line :: rest) block

/-- Lines that cannot be read are truncated. -/
theorem truncated_of_readFrom (hread : (readFrom number lines).value = .error block) :
    Truncated number lines block := by
  induction lines using blocks_induction generalizing number with
  | nil =>
      rw [value_readFrom_nil] at hread
      cases hread
  | cons line rest ih =>
      rw [value_readFrom_cons] at hread
      split at hread
      · rename_i hshort
        cases hread
        exact .short hshort
      · rename_i hlong
        exact .behind (Nat.le_of_not_lt hlong) (ih (eq_error_of_map_eq_error hread))

/-- The error gives the number of a line, how many lines are behind that one, and that these are
too few. -/
theorem Truncated.bounds (htruncated : Truncated number lines block) :
    number ≤ block.line ∧ block.line + 1 + block.available = number + lines.length ∧
      block.available < block.expected := by
  induction htruncated with
  | short hshort =>
      rw [List.length_cons]
      dsimp only
      omega
  | behind hlong _ ih =>
      rw [List.length_drop] at ih
      rw [List.length_cons]
      omega

/-- While lines are missing, the same block is cut short, whatever the lines are. -/
theorem Truncated.readFrom_append (htruncated : Truncated number lines block)
    (hshort : block.available + more.length < block.expected) :
    (readFrom number (lines ++ more)).value =
      .error { block with available := block.available + more.length } := by
  induction htruncated with
  | short _ => rw [List.cons_append, value_readFrom_cons, List.length_append, if_pos hshort]
  | behind hlong _ ih =>
      rw [List.cons_append, value_readFrom_cons, List.length_append, if_neg (by omega),
        List.drop_append_of_le_length hlong, ih hshort]
      rfl

/-- Lines without columns are read as no statement. -/
theorem value_readFrom_blank (hblank : ∀ line ∈ lines, columns line = []) (number : Nat) :
    (readFrom number lines).value = .ok [] := by
  induction lines generalizing number with
  | nil => exact value_readFrom_nil number
  | cons line lines ih =>
      obtain ⟨hline, hrest⟩ := List.forall_mem_cons.mp hblank
      have hheader : headerOf line = .blank := by
        rw [headerOf, hline]
        rfl
      rw [value_readFrom_cons, hheader]
      exact (map_nil_append _).trans (ih hrest (number + 1))

/-- With as many lines as are missing, none of which has columns, a file can be read. -/
theorem Truncated.exists_readFrom_append (htruncated : Truncated number lines block)
    (hblank : ∀ line ∈ more, columns line = [])
    (hlong : block.expected ≤ block.available + more.length) :
    ∃ statements, (readFrom number (lines ++ more)).value = .ok statements := by
  induction htruncated with
  | @short number line rest hshort =>
      dsimp only at hlong
      have hleft : ∀ left ∈ (rest ++ more).drop (headerOf line).count, columns left = [] := by
        rw [List.drop_append, List.drop_of_length_le hshort.le, List.nil_append]
        exact fun left hleft => hblank left (List.mem_of_mem_drop hleft)
      rw [List.cons_append, value_readFrom_cons, List.length_append, if_neg (by omega),
        value_readFrom_blank hleft]
      exact ⟨_, rfl⟩
  | behind hcomplete _ ih =>
      obtain ⟨statements, hstatements⟩ := ih hlong
      rw [List.cons_append, value_readFrom_cons, List.length_append, if_neg (by omega),
        List.drop_append_of_le_length hcomplete, hstatements]
      exact ⟨_, rfl⟩

end Truncated

end Statement

/-! ### Blank lines behind a file -/

/-- A text with an end to its last line, if it has one. -/
def Text.ended (text : Text) : Text :=
  if text = [] ∨ text.getLast? = some '\n' then text else text ++ ['\n']

namespace Statement

/-- The lines of a blank text have no columns. -/
theorem columns_of_mem_lines {blanks : Text} (hblanks : ∀ c ∈ blanks, isBlank c = true) :
    ∀ line ∈ Text.lines blanks, columns line = [] := by
  have hcolumns : ∀ found ∈ (Text.lines blanks).map columns, found = [] := by
    induction blanks using Text.lines_induction with
    | last blanks hfeed =>
        by_cases hsome : blanks = []
        · subst hsome
          exact List.forall_mem_nil _
        · rw [Text.lines_eq_singleton hfeed hsome]
          exact List.forall_mem_singleton.mpr (columns_append_gap [] hblanks)
    | cons first rest hfeed ih =>
        obtain ⟨hfirst, hrest⟩ := List.forall_mem_append.mp hblanks
        rw [map_columns_lines hfeed]
        exact List.forall_mem_cons.mpr
          ⟨columns_append_gap [] hfirst, ih (List.forall_mem_cons.mp hrest).2⟩
  exact fun line hline => hcolumns _ (List.mem_map_of_mem hline)

/-- Behind a file, the lines of another text are those that it has alone, up to their columns. -/
theorem map_columns_lines_ended (text more : Text) :
    (Text.lines (text.ended ++ more)).map columns =
      (Text.lines text).map columns ++ (Text.lines more).map columns := by
  unfold Text.ended
  split
  · rename_i hends
    rw [Text.lines_append hends, List.map_append]
  · rename_i hends
    rw [List.append_assoc, List.singleton_append]
    induction text using Text.lines_induction with
    | last text hfeed =>
        rw [map_columns_lines hfeed, Text.lines_eq_singleton hfeed (not_or.mp hends).1]
        rfl
    | cons line rest hfeed ih =>
        have hrest : ¬(rest = [] ∨ rest.getLast? = some '\n') := by
          rintro (rfl | hlast)
          · exact hends (.inr (by simp))
          · exact hends (.inr (by simp [List.getLast?_cons, hlast]))
        rw [List.append_assoc, List.cons_append, map_columns_lines hfeed, map_columns_lines hfeed,
          ih hrest, List.cons_append]

/-- The end of the last line is put behind a text without the mark in the same way. -/
theorem dropMark_ended_append {text more : Text} (hsome : Text.dropMark text ≠ [])
    (hmark : more.head? ≠ some Text.byteOrderMark) :
    Text.dropMark (text.ended ++ more) = (Text.dropMark text).ended ++ more := by
  have htext : text ≠ [] := by
    rintro rfl
    exact hsome rfl
  have hfeed : ('\n' :: more).head? ≠ some Text.byteOrderMark := by
    have hother : '\n' ≠ Text.byteOrderMark := by decide
    simpa using hother
  unfold Text.ended
  simp only [htext, hsome, false_or, Text.getLast?_dropMark hsome]
  split
  · exact Text.dropMark_append text hmark
  · rw [List.append_assoc, List.append_assoc]
    exact Text.dropMark_append text hfeed

/-- Behind a file that is not empty, blank lines are read as if they were lines of their own. -/
theorem value_readAll_ended {text blanks : Text} (hsome : Text.dropMark text ≠ [])
    (hblanks : ∀ c ∈ blanks, isBlank c = true) :
    readAll (text.ended ++ blanks) =
      readFrom 1 (Text.lines (Text.dropMark text) ++ Text.lines blanks) := by
  have hmark : blanks.head? ≠ some Text.byteOrderMark := by
    rintro hhead
    exact absurd (hblanks _ (List.mem_of_mem_head? hhead)) (by decide)
  rw [readAll, dropMark_ended_append hsome hmark]
  refine readFrom_of_columns ?_ 1
  rw [map_columns_lines_ended, List.map_append]

end Statement

/-- A file that cannot be read is truncated, and the error is exact: it gives the number of one of
its lines, how many lines are behind that one and how many it asks for, which are more.  With blank
lines behind the file the error is the same but for the lines that were added, until there are as
many as are asked for; then the file can be read. -/
theorem Grammar.read_of_truncated {text : Text} {block : TruncatedBlock}
    (hread : (Grammar.read text).value = .error block) :
    (1 ≤ block.line ∧ block.line ≤ (Text.lines text).length ∧
        block.available = (Text.lines text).length - block.line ∧
        block.available < block.expected) ∧
      ∀ (count : Nat) (blanks : Text), (∀ c ∈ blanks, isBlank c = true) →
        (Text.lines blanks).length = count →
          (block.available + count < block.expected →
            (Grammar.read (text.ended ++ blanks)).value =
              .error { block with available := block.available + count }) ∧
          (block.expected ≤ block.available + count →
            ∃ grammar, (Grammar.read (text.ended ++ blanks)).value = .ok grammar) := by
  have htruncated : Statement.Truncated 1 (Text.lines (Text.dropMark text)) block := by
    rw [value_read] at hread
    exact Statement.truncated_of_readFrom (Statement.eq_error_of_map_eq_error hread)
  have hsome : Text.dropMark text ≠ [] := by
    rintro hnone
    rw [hnone] at htruncated
    cases htruncated
  refine ⟨?_, ?_⟩
  · have hbounds := htruncated.bounds
    rw [Text.length_lines_dropMark_of_ne_nil hsome] at hbounds
    omega
  · rintro count blanks hblanks rfl
    rw [value_read, Statement.value_readAll_ended hsome hblanks]
    refine ⟨fun hshort => ?_, fun hlong => ?_⟩
    · rw [htruncated.readFrom_append hshort]
      rfl
    · obtain ⟨statements, hstatements⟩ := htruncated.exists_readFrom_append
        (Statement.columns_of_mem_lines hblanks) hlong
      exact ⟨ofStatements statements, by rw [hstatements]; rfl⟩

/-- A rule behind a remark that lacks two of its three lines, with one blank line behind it and with
two. -/
theorem Grammar.read_of_truncated_twice :
    let text := "# plural\nSFX A Y 3\nSFX A 0 s .".toList
    let block : TruncatedBlock := ⟨"SFX".toList, 2, 3, 1⟩
    (Grammar.read text).value = .error block ∧
      (∀ c ∈ "\t\n".toList, isBlank c = true) ∧ (∀ c ∈ "\r\n ".toList, isBlank c = true) ∧
      (Grammar.read (Text.ended text ++ "\t\n".toList)).value =
        .error { block with available := 2 } ∧
      ∃ grammar, (Grammar.read (Text.ended text ++ "\r\n ".toList)).value = .ok grammar := by
  intro text block
  have hread : (Grammar.read text).value = .error block := by decide +kernel
  have hone : ∀ c ∈ "\t\n".toList, isBlank c = true := List.all_eq_true.mp (by decide)
  have htwo : ∀ c ∈ "\r\n ".toList, isBlank c = true := List.all_eq_true.mp (by decide)
  have hexact := (Grammar.read_of_truncated hread).2
  exact ⟨hread, hone, htwo, (hexact 1 _ hone (by decide +kernel)).1 (by decide),
    (hexact 2 _ htwo (by decide +kernel)).2 (by decide)⟩

end Orthography
