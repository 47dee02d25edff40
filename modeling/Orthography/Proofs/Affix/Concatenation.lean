import Orthography.Proofs.Affix.Gathered
import Orthography.Proofs.Text.Cutting

/-!
# Affix files that are put together

If an affix file can be read and ends with a line feed, whatever follows it is read as if it stood
alone: no block of the first file takes lines of the second.  The second file replaces the rules and
settings of the first that it gives again, and its compound rules and replacements come behind those
of the first.  Only where the second file is truncated does the number of the line tell that it has
another one before it.
-/

namespace Orthography

/-- An error with the lines counted from further ahead. -/
def TruncatedBlock.after (lines : Nat) (block : TruncatedBlock) : TruncatedBlock :=
  { block with line := block.line + lines }

namespace Statement

/-- Where reading starts to count the lines matters for the line of an error alone. -/
theorem value_readFrom_add (lines : List Text) (number skipped : Nat) :
    (readFrom (number + skipped) lines).value =
      (readFrom number lines).value.mapError (·.after skipped) := by
  induction lines using blocks_induction generalizing number with
  | nil => rw [value_readFrom_nil, value_readFrom_nil]; rfl
  | cons line rest ih =>
      rw [value_readFrom_cons, value_readFrom_cons]
      split
      · rfl
      · have hnumber : number + skipped + 1 + (headerOf line).count =
            number + 1 + (headerOf line).count + skipped := by omega
        rw [hnumber, ih]
        cases (readFrom _ (rest.drop (headerOf line).count)).value <;> rfl

/-- Lines behind others that can be read are read as if they stood alone. -/
theorem value_readFrom_append (first second : List Text) (number : Nat)
    {statements : List Statement} (hfirst : (readFrom number first).value = .ok statements) :
    (readFrom number (first ++ second)).value =
      (readFrom (number + first.length) second).value.map (statements ++ ·) := by
  induction first using blocks_induction generalizing number statements with
  | nil =>
      rw [value_readFrom_nil, Except.ok.injEq] at hfirst
      rw [← hfirst, map_nil_append]
      rfl
  | cons line rest ih =>
      obtain ⟨hlines, others, hothers, rfl⟩ := exists_of_readFrom_cons hfirst
      have hlong : ¬ (rest ++ second).length < (headerOf line).count := by
        rw [List.length_append]
        omega
      have hnumber : number + 1 + (headerOf line).count +
          (rest.drop (headerOf line).count).length = number + (line :: rest).length := by
        rw [List.length_drop, List.length_cons]
        omega
      rw [List.cons_append, value_readFrom_cons, if_neg hlong,
        List.take_append_of_le_length hlines, List.drop_append_of_le_length hlines,
        ih _ hothers, hnumber]
      cases (readFrom (number + (line :: rest).length) second).value with
      | error block => rfl
      | ok later => exact congrArg Except.ok (List.append_assoc _ _ _).symm

end Statement

namespace Grammar

/-- A grammar joins two others: what the second gives replaces what the first gives under the same
name, and its compound rules and replacements come behind those of the first. -/
structure Joins (first second joined : Grammar) : Prop where
  rules : ∀ code, joined.rule? code = (second.rule? code).or (first.rule? code)
  settings : ∀ name, joined.settings.get? name =
    (second.settings.get? name).or (first.settings.get? name)
  compoundRules : joined.compoundRules = first.compoundRules ++ second.compoundRules
  replacements : joined.replacements = first.replacements ++ second.replacements

/-- The grammar of some statements and of those behind them. -/
theorem joins_ofStatements (first second : List Statement) :
    (ofStatements first).Joins (ofStatements second) (ofStatements (first ++ second)) := by
  have hvalues {β : Type} (first second : List (Text × β)) (key : Text) :
      ((∅ : Table β).insertAll (first ++ second)).get? key =
        (((∅ : Table β).insertAll second).get? key).or
          (((∅ : Table β).insertAll first).get? key) := by
    rw [Table.insertAll, List.foldl_append, ← Table.insertAll, ← Table.insertAll,
      Table.get?_insertAll _ second, Table.get?_insertAll ∅ second, Table.get?_empty,
      Option.or_none]
  simp only [ofStatements, foldl_add, empty, List.filterMap_append, List.flatMap_append]
  exact ⟨hvalues _ _, hvalues _ _, rfl, rfl⟩

end Grammar

namespace Statement

/-- The statements of a file that can be read, and those of whatever follows it. -/
theorem value_readAll_append {first second : Text} {statements : List Statement}
    (hends : first = [] ∨ first.getLast? = some '\n')
    (hfirst : (readAll first).value = .ok statements)
    (hmark : second.head? ≠ some Text.byteOrderMark) :
    (readAll (first ++ second)).value =
      ((readAll second).value.mapError (·.after (Text.lines first).length)).map
        (statements ++ ·) := by
  rw [readAll, readAll, Text.dropMark_append first hmark, Text.dropMark_of_head? hmark,
    Text.lines_append (Text.ends_dropMark hends), value_readFrom_append _ _ _ hfirst,
    value_readFrom_add, Text.length_lines_dropMark hends]

end Statement

namespace Grammar

/-- A file that can be read and ends with a line feed, and whatever follows it, are read one after
the other.  If the second can be read, the grammar of both joins their grammars; if it is truncated,
so are both, in the same block, with the lines of the first counted. -/
theorem read_append {first second : Text} {grammar : Grammar}
    (hends : first = [] ∨ first.getLast? = some '\n')
    (hfirst : (Grammar.read first).value = .ok grammar)
    (hmark : second.head? ≠ some Text.byteOrderMark) :
    (∀ later, (Grammar.read second).value = .ok later →
        ∃ joined, (Grammar.read (first ++ second)).value = .ok joined ∧
          grammar.Joins later joined ∧ joined.Indexed) ∧
      ∀ block, (Grammar.read second).value = .error block →
        (Grammar.read (first ++ second)).value =
          .error { block with line := block.line + (Text.lines first).length } := by
  obtain ⟨statements, hstatements, rfl⟩ := exists_readAll_of_read hfirst
  rw [value_read, value_read, Statement.value_readAll_append hends hstatements hmark]
  cases (Statement.readAll second).value with
  | error block =>
      refine ⟨?_, ?_⟩
      · intro later hlater
        cases hlater
      · intro other hother
        cases hother
        rfl
  | ok others =>
      refine ⟨?_, ?_⟩
      · intro later hlater
        cases hlater
        exact ⟨_, rfl, joins_ofStatements _ _, indexed_ofStatements _⟩
      · intro block hblock
        cases hblock

/-- A file with a rule and a setting that the next file gives again, and one whose next file is cut
short in the same rule. -/
theorem read_append_replaced :
    let first := "TRY esi\nREP a b\nCOMPOUNDRULE 1\nCOMPOUNDRULE XY\nSFX BS Y 1\nSFX BS 0 s .\n".toList
    let second :=
      "TRY e\nONLYINCOMPOUND OC\nREP c d\nCOMPOUNDRULE 1\nCOMPOUNDRULE XZ*\nSFX BS N 0\n".toList
    let third := "SFX BS N 2\nSFX BS 0 es .\n".toList
    ∃ grammar later, (first = [] ∨ first.getLast? = some '\n') ∧
      (Grammar.read first).value = .ok grammar ∧ (Grammar.read second).value = .ok later ∧
      second.head? ≠ some Text.byteOrderMark ∧ third.head? ≠ some Text.byteOrderMark ∧
      (∃ joined, (Grammar.read (first ++ second)).value = .ok joined ∧
        grammar.Joins later joined ∧ joined.Indexed ∧
        joined.rule? "BS".toList = some ⟨.trailing, false, []⟩ ∧
        joined.settings.get? "TRY".toList = some "e".toList ∧
        joined.compoundRules = [⟨"XY".toList⟩, ⟨"XZ*".toList⟩] ∧
        joined.replacements =
          [⟨"a".toList, "b".toList⟩, ⟨"c".toList, "d".toList⟩] ∧
        joined.compoundCodes = ["OC".toList, "X".toList, "Y".toList, "Z".toList]) ∧
      (Grammar.read (first ++ third)).value = .error ⟨"SFX".toList, 7, 2, 1⟩ := by
  intro first second third
  let grammar := (Grammar.read first).value.toOption.getD .empty
  let later := (Grammar.read second).value.toOption.getD .empty
  have hfirst : (Grammar.read first).value = .ok grammar := by decide +kernel
  have hsecond : (Grammar.read second).value = .ok later := by decide +kernel
  have hthird : (Grammar.read third).value = .error ⟨"SFX".toList, 1, 2, 1⟩ := by decide +kernel
  obtain ⟨hrule, htry, hmarking, hcompounds, hreplacements⟩ :
      (later.rule? "BS".toList).or (grammar.rule? "BS".toList) = some ⟨.trailing, false, []⟩ ∧
        (later.settings.get? "TRY".toList).or (grammar.settings.get? "TRY".toList) =
          some "e".toList ∧
        (later.settings.get? Settings.onlyInCompound).or
          (grammar.settings.get? Settings.onlyInCompound) = some "OC".toList ∧
        grammar.compoundRules ++ later.compoundRules = [⟨"XY".toList⟩, ⟨"XZ*".toList⟩] ∧
        grammar.replacements ++ later.replacements =
          [⟨"a".toList, "b".toList⟩, ⟨"c".toList, "d".toList⟩] := by
    decide +kernel
  have hends : first = [] ∨ first.getLast? = some '\n' := .inr (by decide)
  have hmarks : second.head? ≠ some Text.byteOrderMark ∧
      third.head? ≠ some Text.byteOrderMark := by decide
  refine ⟨grammar, later, hends, hfirst, hsecond, hmarks.1, hmarks.2, ?_, ?_⟩
  · obtain ⟨joined, hjoined, hjoins, hindexed⟩ := (read_append hends hfirst hmarks.1).1 _ hsecond
    have hrules := hjoins.compoundRules.trans hcompounds
    refine ⟨joined, hjoined, hjoins, hindexed, (hjoins.rules _).trans hrule,
      (hjoins.settings _).trans htry, hrules, hjoins.replacements.trans hreplacements, ?_⟩
    rw [indexed_iff.mp hindexed, codesOf, hrules, hjoins.settings, hmarking]
    decide +kernel
  · exact (read_append hends hfirst hmarks.2).2 _ hthird

end Grammar

end Orthography
