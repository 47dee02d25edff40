import Orthography.Affix.Grammar

/-!
# Affix files block by block

Each header of an affix file asks for a number of lines behind it, most of them for none, and gives
at most one statement.  What is read does not depend on the numbers of the lines, which are there
for the journal and for the error alone.  So the reader is described by one equation
(`Statement.value_readFrom_cons`) and an induction that follows it (`Statement.blocks_induction`).
What holds of each kind of statement that a block can give holds of all that are read
(`Statement.forall_mem_of_readFrom`).
-/

namespace Orthography.Statement

/-- The entries in the lines of a rule, without those that cannot be read. -/
def entriesOf (kind : AffixKind) (lines : List Text) : List AffixEntry :=
  lines.filterMap fun line => (readEntry kind line).toOption

/-- The compound rules in the lines of a list of them. -/
def compoundsOf (lines : List Text) : List CompoundRule :=
  lines.filterMap fun line => (columns line)[1]?.map CompoundRule.mk

namespace Header

/-- What a header calls its block. -/
def directive : Header → Text
  | rule kind _ _ _ => kind.marker
  | compounds _ => compoundMarker
  | blank | malformed _ | single _ => []

/-- How many lines behind a header belong to it. -/
def count : Header → Nat
  | rule _ _ _ count | compounds count => count
  | blank | malformed _ | single _ => 0

/-- The statement that a header makes with its lines, if it makes one. -/
def statement? (lines : List Text) : Header → Option Statement
  | rule kind code combinable _ =>
    some (.rule code ⟨kind, combinable, entriesOf kind lines⟩)
  | compounds _ => some (.compounds (compoundsOf lines))
  | single statement => some statement
  | blank | malformed _ => none

end Header

/-- The header that a line is. -/
def headerOf (line : Text) : Header := readHeader (columns line)

/-! ### One block -/

/-- The entries of a rule do not depend on the numbers of its lines. -/
theorem value_readEntries (kind : AffixKind) (number : Nat) (lines : List Text) :
    (readEntries kind number lines).value = entriesOf kind lines := by
  refine Logged.value_gather_zipIdx (fun numbered => ?_) number lines
  obtain ⟨line, place⟩ := numbered
  simp only [readNumberedEntry]
  cases readEntry kind line <;> rfl

/-- Compound rules do not depend on the numbers of their lines. -/
theorem value_readCompounds (number : Nat) (lines : List Text) :
    (readCompounds number lines).value = compoundsOf lines := by
  refine Logged.value_gather_zipIdx (fun numbered => ?_) number lines
  obtain ⟨line, place⟩ := numbered
  simp only [readNumberedCompound]
  cases (columns line)[1]? <;> rfl

/-- Nothing put in front of what was read changes it. -/
theorem map_nil_append {α ε : Type} (read : Except ε (List α)) : read.map ([] ++ ·) = read := by
  cases read <;> rfl

/-- A result that was mapped comes from a result. -/
theorem exists_of_map_eq_ok {α β ε : Type} {read : Except ε α} {f : α → β} {result : β}
    (hmap : read.map f = .ok result) : ∃ value, read = .ok value ∧ f value = result := by
  cases read with
  | error fault => cases hmap
  | ok value => exact ⟨value, rfl, Except.ok.inj hmap⟩

/-- A fault that was passed on comes from the fault. -/
theorem eq_error_of_map_eq_error {α β ε : Type} {read : Except ε α} {f : α → β} {fault : ε}
    (hmap : read.map f = .error fault) : read = .error fault := by
  cases read with
  | error found => exact congrArg Except.error (Except.error.inj hmap)
  | ok value => cases hmap

@[simp] theorem value_readFrom_nil (number : Nat) : (readFrom number []).value = .ok [] := by
  rw [readFrom]
  rfl

/-- A header takes the lines that it asks for, if there are that many, and reading goes on behind
them. -/
theorem value_readFrom_cons (number : Nat) (line : Text) (rest : List Text) :
    (readFrom number (line :: rest)).value =
      if rest.length < (headerOf line).count then
        .error ⟨(headerOf line).directive, number, (headerOf line).count, rest.length⟩
      else (readFrom (number + 1 + (headerOf line).count)
          (rest.drop (headerOf line).count)).value.map
        (((headerOf line).statement? (rest.take (headerOf line).count)).toList ++ ·) := by
  rw [readFrom, headerOf]
  cases readHeader (columns line) with
  | blank => exact (map_nil_append _).symm
  | malformed directive => exact (map_nil_append _).symm
  | rule kind code combinable count =>
      dsimp only
      change _ = if rest.length < count then Except.error _ else _
      by_cases hshort : rest.length < count
      · rw [if_pos hshort, if_pos hshort]
        rfl
      · rw [if_neg hshort, if_neg hshort]
        exact congrArg (fun entries => (readFrom (number + 1 + count)
          (rest.drop count)).value.map (.rule code ⟨kind, combinable, entries⟩ :: ·))
          (value_readEntries kind (number + 1) (rest.take count))
  | compounds count =>
      dsimp only
      change _ = if rest.length < count then Except.error _ else _
      by_cases hshort : rest.length < count
      · rw [if_pos hshort, if_pos hshort]
        rfl
      · rw [if_neg hshort, if_neg hshort]
        exact congrArg (fun rules => (readFrom (number + 1 + count)
          (rest.drop count)).value.map (.compounds rules :: ·))
          (value_readCompounds (number + 1) (rest.take count))
  | single statement => rfl

/-- A file that starts with some header can be read if its block is complete and what is behind it
can be read. -/
theorem exists_of_readFrom_cons {number : Nat} {line : Text} {rest : List Text}
    {statements : List Statement}
    (hread : (readFrom number (line :: rest)).value = .ok statements) :
    (headerOf line).count ≤ rest.length ∧ ∃ others,
      (readFrom (number + 1 + (headerOf line).count)
        (rest.drop (headerOf line).count)).value = .ok others ∧
      statements =
        ((headerOf line).statement? (rest.take (headerOf line).count)).toList ++ others := by
  rw [value_readFrom_cons] at hread
  split at hread
  · cases hread
  · rename_i hlong
    obtain ⟨others, hothers, rfl⟩ := exists_of_map_eq_ok hread
    exact ⟨Nat.le_of_not_lt hlong, others, hothers, rfl⟩

/-- A property of all lists of lines that passes from the lines behind a block to those from its
header on. -/
theorem blocks_induction {P : List Text → Prop} (nil : P [])
    (cons : ∀ line rest, P (rest.drop (headerOf line).count) → P (line :: rest))
    (lines : List Text) : P lines := by
  induction hlength : lines.length using Nat.strongRecOn generalizing lines with
  | ind length ih =>
      cases lines with
      | nil => exact nil
      | cons line rest =>
          refine cons line rest (ih _ ?_ _ rfl)
          rw [← hlength, List.length_drop, List.length_cons]
          omega

/-! ### All statements -/

/-- The header of a rule is no statement by itself. -/
theorem readRuleHeader_ne_single (columns : List Text) (statement : Statement) :
    readRuleHeader columns ≠ .single statement := by
  intro hheader
  unfold readRuleHeader at hheader
  dsimp only at hheader
  split at hheader
  · split at hheader
    · split at hheader <;> cases hheader
    · cases hheader
    · cases hheader
  · cases hheader

/-- A line that is a statement by itself gives a replacement or a setting. -/
theorem single_cases {columns : List Text} {statement : Statement}
    (hheader : readHeader columns = .single statement) :
    (∃ given, statement = .replacement given) ∨ ∃ name value, statement = .setting name value := by
  unfold readHeader at hheader
  split at hheader
  · cases hheader
  · split at hheader
    · exact absurd hheader (readRuleHeader_ne_single _ _)
    · split at hheader
      · split at hheader <;> cases hheader
      · split at hheader
        · split at hheader
          · cases hheader
            exact .inl ⟨_, rfl⟩
          · cases hheader
        · cases hheader
          exact .inr ⟨_, _, rfl⟩

/-- What holds of the rules and compound rules that any lines make, of replacements and of settings
holds of all statements of a file. -/
theorem forall_mem_of_readFrom {P : Statement → Prop}
    (hrule : ∀ kind code combinable lines, P (.rule code ⟨kind, combinable, entriesOf kind lines⟩))
    (hcompounds : ∀ lines, P (.compounds (compoundsOf lines)))
    (hreplacement : ∀ given, P (.replacement given))
    (hsetting : ∀ name value, P (.setting name value)) {number : Nat} {lines : List Text}
    {statements : List Statement} (hread : (readFrom number lines).value = .ok statements) :
    ∀ statement ∈ statements, P statement := by
  have hblock (line : Text) (lines : List Text) {statement : Statement}
      (hstatement : (headerOf line).statement? lines = some statement) : P statement := by
    cases hheader : headerOf line with
    | blank =>
        rw [hheader] at hstatement
        cases hstatement
    | malformed directive =>
        rw [hheader] at hstatement
        cases hstatement
    | rule kind code combinable count =>
        rw [hheader] at hstatement
        cases hstatement
        exact hrule kind code combinable lines
    | compounds count =>
        rw [hheader] at hstatement
        cases hstatement
        exact hcompounds lines
    | single other =>
        rw [hheader] at hstatement
        cases hstatement
        obtain ⟨given, rfl⟩ | ⟨name, value, rfl⟩ := single_cases hheader
        · exact hreplacement given
        · exact hsetting name value
  induction lines using blocks_induction generalizing number statements with
  | nil =>
      rw [value_readFrom_nil] at hread
      cases hread
      exact List.forall_mem_nil _
  | cons line rest ih =>
      obtain ⟨-, others, hothers, rfl⟩ := exists_of_readFrom_cons hread
      exact List.forall_mem_append.mpr
        ⟨fun statement hstatement => hblock line _ (Option.mem_toList.mp hstatement), ih hothers⟩

end Orthography.Statement
