import Orthography.Proofs.Affix.Removal
import Orthography.Proofs.Text.Written

/-!
# Writing entries

The entries of affix rules can be written as lines of five columns.  If all that is written into the
columns is a token, and no column takes the meaning of another, the line is read as the entry
(`Statement.readEntry_row`): comments do not start in it, the columns are not shifted, an addition
ends at its slash, and codes that stand side by side are split again.
-/

namespace Orthography

open Character (isBlank)

/-! ### Columns -/

namespace Text

/-- What can stand where a column stands, be it nothing: it has no blanks and does not start a
comment. -/
structure IsColumn (word : Text) : Prop where
  solid : ∀ c ∈ word, isBlank c = false
  head : word.head? ≠ some '#'

/-- What can be written as a column: something without the byte order mark. -/
structure IsToken (word : Text) : Prop extends IsColumn word where
  ne_nil : word ≠ []
  unmarked : byteOrderMark ∉ word

/-- Whether no character is a blank is found out by looking at all of them. -/
theorem all_not_isBlank_iff {word : Text} :
    word.all (!isBlank ·) = true ↔ ∀ c ∈ word, isBlank c = false := by
  simp

instance : DecidablePred IsColumn := fun word =>
  decidable_of_iff (word.all (!isBlank ·) = true ∧ word.head? ≠ some '#')
    ⟨fun h => ⟨all_not_isBlank_iff.mp h.1, h.2⟩, fun h => ⟨all_not_isBlank_iff.mpr h.solid, h.head⟩⟩

instance : DecidablePred IsToken := fun word =>
  decidable_of_iff (word.IsColumn ∧ word ≠ [] ∧ byteOrderMark ∉ word)
    ⟨fun h => ⟨h.1, h.2.1, h.2.2⟩, fun h => ⟨h.toIsColumn, h.ne_nil, h.unmarked⟩⟩

/-- Digits are no blanks. -/
theorem isBlank_of_isDigit {c : Char} (hdigit : c.isDigit = true) : isBlank c = false := by
  obtain ⟨hlow, hhigh⟩ : 48 ≤ c.toNat ∧ c.toNat ≤ 57 := by
    simpa [Char.isDigit, UInt32.le_iff_toNat_le] using hdigit
  have hruns : ∀ run ∈ Character.blankRuns, run.last < 48 ∨ 57 < run.first := by decide
  refine List.any_eq_false.mpr fun run hrun hblank => ?_
  simp only [Character.Run.contains, Bool.and_eq_true, decide_eq_true_eq] at hblank
  rcases hruns run hrun with hbelow | habove
  · omega
  · omega

/-- A numeral is a column. -/
theorem isColumn_numeral (count : Nat) : (numeral count).IsColumn where
  solid := fun _ hc => isBlank_of_isDigit (isDigit_of_mem_numeral hc)
  head := fun hhead =>
    absurd (isDigit_of_mem_numeral (List.mem_of_mem_head? hhead)) (by decide)

end Text

namespace Statement

/-- No comment starts in a column. -/
theorem beforeComment_append {word rest left : Text} (hsolid : ∀ c ∈ word, isBlank c = false)
    (hrest : ∀ afterBlank, beforeComment afterBlank rest = left) (afterBlank : Bool)
    (hhead : afterBlank = true → word.head? ≠ some '#') :
    beforeComment afterBlank (word ++ rest) = word ++ left := by
  induction word generalizing afterBlank with
  | nil => exact hrest afterBlank
  | cons c word ih =>
      obtain ⟨hc, hword⟩ := List.forall_mem_cons.mp hsolid
      have hnone : (afterBlank && c == '#') = false := by
        cases afterBlank with
        | false => rfl
        | true => exact beq_eq_false_iff_ne.mpr fun hsame => hhead rfl (congrArg some hsame)
      rw [List.cons_append, beforeComment, hnone, hc, ih hword false nofun]
      rfl

/-- No comment starts in a row of columns. -/
theorem beforeComment_row {columns : List Text} (hcolumns : ∀ column ∈ columns, column.IsColumn) :
    beforeComment true (Text.row columns) = Text.row columns := by
  induction columns with
  | nil => rfl
  | cons first columns ih =>
      obtain ⟨hfirst, hrest⟩ := List.forall_mem_cons.mp hcolumns
      cases columns with
      | nil =>
          have hline : beforeComment true (first ++ []) = first ++ [] :=
            beforeComment_append hfirst.solid beforeComment.eq_1 true fun _ => hfirst.head
          rwa [List.append_nil, ← Text.row_singleton first] at hline
      | cons second columns =>
          rw [Text.row_cons_cons]
          refine beforeComment_append hfirst.solid (fun afterBlank => ?_) true fun _ => hfirst.head
          have hnone : (afterBlank && ' ' == '#') = false := Bool.and_false _
          have hblank : isBlank ' ' = true := by decide
          rw [beforeComment, hnone, hblank, ih hrest]
          rfl

/-- The columns of a row are those that are not empty. -/
theorem columns_row {columns : List Text} (hsome : columns ≠ [])
    (hcolumns : ∀ column ∈ columns, column.IsColumn) :
    Statement.columns (Text.row columns) = columns.filter (!·.isEmpty) := by
  rw [Statement.columns, beforeComment_row hcolumns, Text.columns, Text.split,
    Text.splitOnP_row hsome fun column hcolumn => (hcolumns column hcolumn).solid]

/-- A row of filled columns is read as these columns. -/
theorem columns_row_of_filled {columns : List Text} (hsome : columns ≠ [])
    (hfilled : ∀ column ∈ columns, column.IsColumn ∧ column ≠ []) :
    Statement.columns (Text.row columns) = columns := by
  rw [columns_row hsome fun column hcolumn => (hfilled column hcolumn).1]
  exact List.filter_eq_self.mpr fun column hcolumn => by simpa using (hfilled column hcolumn).2

end Statement

/-! ### Entries -/

namespace Code

/-- Codes that can be told apart when they stand side by side: all but the last have the full
width, and the last has it or is one character. -/
structure Separable (codes : List Code) : Prop where
  inner : ∀ code ∈ codes.dropLast, code.length = 2
  last : ∀ code ∈ codes.getLast?, code.length = 1 ∨ code.length = 2

instance : DecidablePred Separable := fun codes =>
  decidable_of_iff ((∀ code ∈ codes.dropLast, code.length = 2) ∧
      ∀ code ∈ codes.getLast?, code.length = 1 ∨ code.length = 2)
    ⟨fun h => ⟨h.1, h.2⟩, fun h => ⟨h.inner, h.last⟩⟩

/-- Separable codes are split where they were joined. -/
theorem split_flatten {codes : List Code} (hcodes : Separable codes) :
    split codes.flatten = codes := by
  induction codes with
  | nil => rfl
  | cons first codes ih =>
      cases codes with
      | nil =>
          rcases hcodes.last first rfl with hone | htwo
          · obtain ⟨a, rfl⟩ := List.length_eq_one_iff.mp hone
            rfl
          · obtain ⟨a, b, rfl⟩ := List.length_eq_two.mp htwo
            rfl
      | cons second codes =>
          obtain ⟨hfirst, hinner⟩ := List.forall_mem_cons.mp hcodes.inner
          obtain ⟨a, b, rfl⟩ := List.length_eq_two.mp hfirst
          have hrest : split (second :: codes).flatten = second :: codes :=
            ih ⟨hinner, hcodes.last⟩
          rw [List.flatten_cons, List.cons_append, List.cons_append, List.nil_append, split, hrest]

end Code

/-- How a removal is written. -/
def Removal.source : Removal → Text
  | trailing condition => condition.source
  | leading text => text

namespace AffixEntry

open Statement (nothing always)

/-- The column for what an entry takes away. -/
def removalColumn (entry : AffixEntry) : Text := entry.remove.elim nothing (·.source)

/-- How what an entry adds is written. -/
def addition (entry : AffixEntry) : Text := if entry.add = [] then nothing else entry.add

/-- The column for what an entry adds and the codes that it goes on to. -/
def additionColumn (entry : AffixEntry) : Text :=
  entry.addition ++ if entry.continuation = [] then [] else '/' :: entry.continuation.flatten

/-- The column for the condition of an entry. -/
def conditionColumn (entry : AffixEntry) : Text := entry.condition.elim always (·.source)

/-- The columns of an entry in the rule with a code. -/
def columns (kind : AffixKind) (code : Code) (entry : AffixEntry) : List Text :=
  [kind.marker, code, entry.removalColumn, entry.additionColumn, entry.conditionColumn]

/-- An entry that can be written in a rule of a kind: its columns are tokens, removal and condition
are at the end at which the rule adds, and no column is what stands for nothing or for the marker of
a rule. -/
structure Writable (kind : AffixKind) (entry : AffixEntry) : Prop where
  add : entry.add = [] ∨ entry.add.IsToken ∧ '/' ∉ entry.add ∧ entry.add ≠ nothing
  remove : ∀ removal ∈ entry.remove,
    removal.IsAt kind ∧ removal.source.IsToken ∧ removal.source ≠ nothing ∧
      ∀ other : AffixKind, removal.source ≠ other.marker
  condition : ∀ condition ∈ entry.condition,
    condition.anchor = kind.anchor ∧ condition.source.IsToken ∧ condition.source ≠ always
  continuation : Code.Separable entry.continuation
  solid : ∀ code ∈ entry.continuation, ∀ c ∈ code, isBlank c = false

instance {P : AffixKind → Prop} [DecidablePred P] : Decidable (∀ kind, P kind) :=
  decidable_of_iff (P .leading ∧ P .trailing)
    ⟨fun h kind => by cases kind; exacts [h.1, h.2], fun h => ⟨h _, h _⟩⟩

instance (kind : AffixKind) (removal : Removal) : Decidable (removal.IsAt kind) :=
  match kind, removal with
  | .trailing, .trailing condition => inferInstanceAs (Decidable (condition.anchor = .stop))
  | .leading, .leading _ => .isTrue trivial
  | .trailing, .leading _ | .leading, .trailing _ => .isFalse id

instance (kind : AffixKind) (entry : AffixEntry) : Decidable (entry.Writable kind) :=
  decidable_of_iff
    ((entry.add = [] ∨ entry.add.IsToken ∧ '/' ∉ entry.add ∧ entry.add ≠ nothing) ∧
      (∀ removal ∈ entry.remove, removal.IsAt kind ∧ removal.source.IsToken ∧
        removal.source ≠ nothing ∧ ∀ other : AffixKind, removal.source ≠ other.marker) ∧
      (∀ condition ∈ entry.condition, condition.anchor = kind.anchor ∧ condition.source.IsToken ∧
        condition.source ≠ always) ∧
      Code.Separable entry.continuation ∧
      ∀ code ∈ entry.continuation, code.all (!isBlank ·) = true)
    ⟨fun ⟨hadd, hremove, hcondition, hcontinuation, hsolid⟩ =>
        ⟨hadd, hremove, hcondition, hcontinuation,
          fun code hcode => Text.all_not_isBlank_iff.mp (hsolid code hcode)⟩,
      fun h => ⟨h.add, h.remove, h.condition, h.continuation,
        fun code hcode => Text.all_not_isBlank_iff.mpr (h.solid code hcode)⟩⟩

end AffixEntry

/-- Only the markers mark kinds of rules. -/
theorem AffixKind.ofMarker?_eq_none {word : Text} (hword : ∀ kind : AffixKind, word ≠ kind.marker) :
    ofMarker? word = none := by
  rw [ofMarker?, if_neg (hword _), if_neg (hword _)]

/-- A condition is read from its text. -/
theorem Condition.ofSource_source (condition : Condition) :
    ofSource condition.source condition.anchor = .ok condition := by
  unfold ofSource
  split
  · exact congrArg Except.ok (ext_source rfl rfl)
  · rename_i refusal hrefused
    cases condition.read.symm.trans hrefused

namespace AffixKind

/-- A marker is a column. -/
theorem isColumn_marker (kind : AffixKind) : kind.marker.IsColumn := by
  cases kind <;> decide

/-- A marker is not empty. -/
theorem marker_ne_nil (kind : AffixKind) : kind.marker ≠ [] := by
  cases kind <;> decide

end AffixKind

namespace AffixEntry

open Statement (nothing always)

variable {kind : AffixKind} {entry : AffixEntry}

/-- The column for a removal is filled. -/
theorem Writable.removalColumn (hentry : entry.Writable kind) :
    entry.removalColumn.IsColumn ∧ entry.removalColumn ≠ [] := by
  rw [AffixEntry.removalColumn]
  cases hremove : entry.remove with
  | none => decide
  | some removal =>
      obtain ⟨-, htoken, -⟩ := hentry.remove removal hremove
      exact ⟨htoken.toIsColumn, htoken.ne_nil⟩

/-- The column for a condition is filled. -/
theorem Writable.conditionColumn (hentry : entry.Writable kind) :
    entry.conditionColumn.IsColumn ∧ entry.conditionColumn ≠ [] := by
  rw [AffixEntry.conditionColumn]
  cases hcondition : entry.condition with
  | none => decide
  | some condition =>
      obtain ⟨-, htoken, -⟩ := hentry.condition condition hcondition
      exact ⟨htoken.toIsColumn, htoken.ne_nil⟩

/-- An addition is written as what stands for nothing or as it is. -/
theorem Writable.addition_cases (hentry : entry.Writable kind) :
    entry.add = [] ∧ entry.addition = nothing ∨
      entry.addition = entry.add ∧ entry.add.IsToken ∧ '/' ∉ entry.add ∧ entry.add ≠ nothing :=
  hentry.add.imp (fun hnone => ⟨hnone, if_pos hnone⟩)
    fun hadd => ⟨if_neg hadd.1.ne_nil, hadd⟩

/-- The column for an addition is filled. -/
theorem Writable.additionColumn (hentry : entry.Writable kind) :
    entry.additionColumn.IsColumn ∧ entry.additionColumn ≠ [] := by
  obtain ⟨hadd, hsome⟩ : entry.addition.IsColumn ∧ entry.addition ≠ [] := by
    rcases hentry.addition_cases with ⟨-, hnothing⟩ | ⟨hadd, htoken, -⟩
    · rw [hnothing]
      decide
    · rw [hadd]
      exact ⟨htoken.toIsColumn, htoken.ne_nil⟩
  rw [AffixEntry.additionColumn]
  refine ⟨⟨fun c hc => ?_, ?_⟩, List.append_ne_nil_of_left_ne_nil hsome _⟩
  · rcases List.mem_append.mp hc with hc | hc
    · exact hadd.solid c hc
    · split at hc
      · exact absurd hc List.not_mem_nil
      · rcases List.mem_cons.mp hc with rfl | hc
        · decide
        · obtain ⟨code, hcode, hc⟩ := List.mem_flatten.mp hc
          exact hentry.solid code hcode c hc
  · rw [List.head?_append_of_ne_nil _ hsome]
    exact hadd.head

/-- All columns of an entry are filled. -/
theorem Writable.filled_columns (hentry : entry.Writable kind) {code : Code}
    (hcode : code.IsToken) :
    ∀ column ∈ entry.columns kind code, column.IsColumn ∧ column ≠ [] := by
  simp only [columns, List.forall_mem_cons]
  exact ⟨⟨kind.isColumn_marker, kind.marker_ne_nil⟩, ⟨hcode.toIsColumn, hcode.ne_nil⟩,
    hentry.removalColumn, hentry.additionColumn, hentry.conditionColumn, nofun⟩

end AffixEntry

namespace Statement

/-- An addition without a slash ends where the codes behind it begin. -/
theorem splitAddition_append {add : Text} (hadd : '/' ∉ add) (rest : Text) :
    splitAddition (add ++ rest) = (add ++ (splitAddition rest).1, (splitAddition rest).2) := by
  induction add with
  | nil => rfl
  | cons c add ih =>
      rw [List.mem_cons, not_or] at hadd
      rw [List.cons_append, splitAddition, if_neg (Ne.symm hadd.1), ih hadd.2]
      rfl

variable {kind : AffixKind} {entry : AffixEntry}

/-- The column for an addition is read as the addition and the codes. -/
theorem splitAddition_additionColumn (hentry : entry.Writable kind) :
    splitAddition entry.additionColumn = (entry.addition, entry.continuation.flatten) := by
  have hslash : '/' ∉ entry.addition := by
    rcases hentry.addition_cases with ⟨-, hnothing⟩ | ⟨hadd, -, hslash, -⟩
    · rw [hnothing]
      decide
    · rwa [hadd]
  rw [AffixEntry.additionColumn, splitAddition_append hslash]
  cases entry.continuation with
  | nil => simp [splitAddition]
  | cons code codes => simp [splitAddition]

/-- The column for a removal is read as the removal. -/
theorem readRemoval_removalColumn (hentry : entry.Writable kind) :
    readRemoval kind entry.removalColumn = .ok entry.remove := by
  unfold readRemoval
  rw [AffixEntry.removalColumn]
  cases hremove : entry.remove with
  | none => rfl
  | some removal =>
      obtain ⟨hat, -, hnothing, -⟩ := hentry.remove removal hremove
      rw [Option.elim_some, if_neg hnothing]
      cases kind with
      | leading =>
          cases removal with
          | trailing condition => exact absurd hat id
          | leading text => rfl
      | trailing =>
          cases removal with
          | leading text => exact absurd hat id
          | trailing condition =>
              have hread : Condition.ofSource condition.source .stop = .ok condition :=
                (show condition.anchor = .stop from hat) ▸ condition.ofSource_source
              simp only [Removal.source, hread]

/-- The column for a condition is read as the condition. -/
theorem readCondition_conditionColumn (hentry : entry.Writable kind) :
    readCondition kind entry.conditionColumn = .ok entry.condition := by
  rw [AffixEntry.conditionColumn, readCondition]
  cases hcondition : entry.condition with
  | none => rfl
  | some condition =>
      obtain ⟨hanchor, -, halways⟩ := hentry.condition condition hcondition
      rw [Option.elim_some, if_neg halways, ← hanchor, condition.ofSource_source]

/-- The line of an entry is read as the entry. -/
theorem readEntry_row {code : Code} (hcode : code.IsToken) (hentry : entry.Writable kind) :
    readEntry kind (Text.row (entry.columns kind code)) = .ok entry := by
  have hcolumns : Statement.columns (Text.row (entry.columns kind code)) =
      entry.columns kind code :=
    columns_row_of_filled (List.cons_ne_nil _ _) (hentry.filled_columns hcode)
  have hkind : AffixKind.ofMarker? entry.removalColumn = none := by
    refine AffixKind.ofMarker?_eq_none ?_
    rw [AffixEntry.removalColumn]
    cases hremove : entry.remove with
    | none => exact fun kind => by cases kind <;> decide
    | some removal => exact (hentry.remove removal hremove).2.2.2
  have hshift : shift (entry.columns kind code) = 0 := by
    simp [shift, AffixEntry.columns, hkind]
  have hadd : (if entry.addition = nothing then [] else entry.addition) = entry.add := by
    rcases hentry.addition_cases with ⟨hnone, hnothing⟩ | ⟨hadd, -, -, hnothing⟩
    · rw [if_pos hnothing, hnone]
    · rw [hadd, if_neg hnothing]
  unfold readEntry
  simp only [hcolumns, hshift]
  simp only [AffixEntry.columns, List.drop_succ_cons, List.drop_zero, List.headD_cons,
    splitAddition_additionColumn hentry, readCondition_conditionColumn hentry,
    readRemoval_removalColumn hentry, hadd, Code.split_flatten hentry.continuation]
  rfl

end Statement

end Orthography
