import Orthography.Proofs.Affix.Entries
import Orthography.Proofs.Affix.Gathered

/-!
# The two layouts of a rule

The lines of a rule are written in two layouts.  The plain one gives the marker and the code once;
the other one puts two more columns behind them, the marker again and a word, which in a header is
the code again.  Each line is recognized by its own third column, so a block may mix the layouts.

Where lines of plain rules get the two columns (`Statement.Relaid`), the same is read, be it a
grammar or the same truncated block (`Grammar.value_read_of_relaid`).
-/

namespace Orthography

open Character (isBlank)

/-! ### Columns of lines that are put together -/

namespace Text

/-- A blank in front adds no column. -/
theorem columns_cons_of_isBlank {c : Char} (hc : isBlank c = true) (rest : Text) :
    columns (c :: rest) = columns rest := by
  rw [columns, split, List.splitOnP_cons_eq_if_modifyHead, hc]
  rfl

/-- Behind a blank the columns are counted on. -/
theorem columns_append (front : Text) {tail : Text} (htail : ∀ c ∈ tail.head?, isBlank c = true) :
    columns (front ++ tail) = columns front ++ columns tail := by
  cases tail with
  | nil =>
      have hnone : columns [] = [] := rfl
      rw [List.append_nil, hnone, List.append_nil]
  | cons c rest =>
      have hc : isBlank c = true := htail c rfl
      rw [columns_cons_of_isBlank hc, columns, split, List.splitOnP_append_cons _ _ hc,
        List.filter_append]
      rfl

end Text

/-- A word that marks a kind is its marker. -/
theorem AffixKind.eq_marker {word : Text} {kind : AffixKind} (hword : ofMarker? word = some kind) :
    word = kind.marker := by
  unfold ofMarker? at hword
  split at hword
  · cases hword
    assumption
  · split at hword
    · cases hword
      assumption
    · cases hword

namespace Statement

/-- A blank starts no comment. -/
theorem beforeComment_cons_of_isBlank {c : Char} (hc : isBlank c = true) (afterBlank : Bool)
    (rest : Text) : beforeComment afterBlank (c :: rest) = c :: beforeComment true rest := by
  have hsign : (c == '#') = false := beq_eq_false_iff_ne.mpr fun hsame =>
    absurd (hsame ▸ hc) (by decide)
  rw [beforeComment, hsign, Bool.and_false, hc]
  rfl

/-- Behind a start without comment and a blank, a line is as it would be alone. -/
theorem beforeComment_append_of_isBlank {front tail : Text} {afterBlank : Bool}
    (hfront : beforeComment afterBlank front = front)
    (htail : ∀ c ∈ tail.head?, isBlank c = true) :
    beforeComment afterBlank (front ++ tail) = front ++ beforeComment true tail := by
  induction front generalizing afterBlank with
  | nil =>
      cases tail with
      | nil => rfl
      | cons c rest =>
          have hc : isBlank c = true := htail c rfl
          rw [List.nil_append, List.nil_append, beforeComment_cons_of_isBlank hc,
            beforeComment_cons_of_isBlank hc]
  | cons c front ih =>
      rw [beforeComment] at hfront
      rw [List.cons_append, beforeComment]
      split at hfront
      · cases hfront
      · rename_i hsign
        rw [if_neg hsign, ih (List.cons.inj hfront).2]
        rfl

/-- The columns of a start without comment and those of the line behind it. -/
theorem columns_append {front tail : Text} (hfront : beforeComment true front = front)
    (htail : ∀ c ∈ tail.head?, isBlank c = true) :
    columns (front ++ tail) = Text.columns front ++ columns tail := by
  rw [columns, beforeComment_append_of_isBlank hfront htail, columns]
  refine Text.columns_append front fun c hc => ?_
  cases tail with
  | nil => cases hc
  | cons d rest =>
      have hd : isBlank d = true := htail d rfl
      rw [beforeComment_cons_of_isBlank hd] at hc
      cases hc
      exact hd

/-- Blanks in front of a line add no column. -/
theorem columns_gap_append {gap : Text} (hgap : ∀ c ∈ gap, isBlank c = true) (rest : Text) :
    columns (gap ++ rest) = columns rest := by
  induction gap with
  | nil => rfl
  | cons c gap ih =>
      obtain ⟨hc, hgap⟩ := List.forall_mem_cons.mp hgap
      rw [List.cons_append, columns, beforeComment_cons_of_isBlank hc,
        Text.columns_cons_of_isBlank hc, ← columns, ih hgap]

/-- A word at the start of a line is a column. -/
theorem columns_word_append {word tail : Text} (hword : word.IsColumn) (hsome : word ≠ [])
    (htail : ∀ c ∈ tail.head?, isBlank c = true) :
    columns (word ++ tail) = word :: columns tail := by
  have hone : ∀ column ∈ [word], column ≠ [] ∧ ∀ c ∈ column, isBlank c = false :=
    List.forall_mem_singleton.mpr ⟨hsome, hword.solid⟩
  have huncommented : beforeComment true word = word := by
    simpa [Text.row_singleton] using
      beforeComment_row (List.forall_mem_singleton.mpr hword : ∀ column ∈ [word], column.IsColumn)
  rw [columns_append huncommented htail, ← Text.row_singleton word, Text.columns_row hone,
    Text.row_singleton]
  rfl

/-! ### Lines with two more columns -/

/-- Blanks between two columns. -/
structure IsGap (gap : Text) : Prop where
  ne_nil : gap ≠ []
  blank : ∀ c ∈ gap, isBlank c = true

/-- What follows a gap is put behind a blank. -/
theorem IsGap.head {gap : Text} (hgap : IsGap gap) (rest : Text) :
    ∀ c ∈ (gap ++ rest).head?, isBlank c = true := by
  obtain ⟨hsome, hblank⟩ := hgap
  cases gap with
  | nil => exact absurd rfl hsome
  | cons d gap =>
      rintro c hc
      cases hc
      exact hblank d List.mem_cons_self

/-- A line, and the line with a marker and a word put in behind its second column. -/
inductive Widens (kind : AffixKind) (word : Text) : (line other : Text) → Prop
  | behind {front tail left right : Text} (huncommented : beforeComment true front = front)
      (htwo : (Text.columns front).length = 2) (htail : ∀ c ∈ tail.head?, isBlank c = true)
      (hleft : IsGap left) (hright : IsGap right) (hword : word.IsColumn) (hsome : word ≠ []) :
      Widens kind word (front ++ tail)
        (front ++ (left ++ (kind.marker ++ (right ++ (word ++ tail)))))

/-- The columns of a line before and after it is widened. -/
theorem Widens.exists_columns {kind : AffixKind} {word line other : Text}
    (hwidens : Widens kind word line other) :
    ∃ first second rest, columns line = first :: second :: rest ∧
      columns other = first :: second :: kind.marker :: word :: rest := by
  obtain ⟨huncommented, htwo, htail, hleft, hright, hword, hsome⟩ := hwidens
  rename_i front tail left right
  obtain ⟨first, second, hfront⟩ := List.length_eq_two.mp htwo
  refine ⟨first, second, columns tail, ?_, ?_⟩
  · rw [columns_append huncommented htail, hfront]
    rfl
  · rw [columns_append huncommented (hleft.head _), hfront, columns_gap_append hleft.blank,
      columns_word_append kind.isColumn_marker kind.marker_ne_nil (hright.head _),
      columns_gap_append hright.blank, columns_word_append hword hsome htail]
    rfl

/-- A line whose third column is a marker is shifted by two columns. -/
theorem shift_marker (kind : AffixKind) (first second : Text) (rest : List Text) :
    shift (first :: second :: kind.marker :: rest) = 2 := by
  simp [shift]

/-- A plain entry with two more columns is read as the entry, or not at all if it could not be read
before. -/
theorem toOption_readEntry_widened {kind marked : AffixKind} {word line other : Text}
    (hplain : shift (columns line) = 0) (hwidens : Widens marked word line other) :
    (readEntry kind other).toOption = (readEntry kind line).toOption := by
  obtain ⟨first, second, rest, hline, hother⟩ := hwidens.exists_columns
  rw [hline] at hplain
  unfold readEntry
  simp only [hline, hother, hplain, shift_marker, List.drop_succ_cons, List.drop_zero]
  cases rest with
  | nil => rfl
  | cons remove rest => cases rest <;> rfl

/-- Only the header of a rule is read as one. -/
theorem readRuleHeader_of_rule {columns : List Text} {kind : AffixKind} {code : Code}
    {combinable : Bool} {count : Nat}
    (hheader : readHeader columns = .rule kind code combinable count) :
    readRuleHeader columns = .rule kind code combinable count := by
  unfold readHeader at hheader
  split at hheader
  · cases hheader
  · split at hheader
    · exact hheader
    · split at hheader
      · split at hheader <;> cases hheader
      · split at hheader
        · split at hheader <;> cases hheader
        · cases hheader

/-- The columns of the header of a plain rule start with its marker and its code. -/
theorem exists_columns_of_header {columns : List Text} {kind : AffixKind} {code : Code}
    {combinable : Bool} {count : Nat} (hplain : shift columns = 0)
    (hheader : readRuleHeader columns = .rule kind code combinable count) :
    ∃ rest, columns = kind.marker :: code :: rest := by
  unfold readRuleHeader at hheader
  rw [hplain, List.drop_zero] at hheader
  dsimp only at hheader
  split at hheader
  · rename_i marker others
    split at hheader
    · rename_i found given combined counted more hmarker
      split at hheader
      · cases hheader
        exact ⟨combined :: counted :: more, by rw [AffixKind.eq_marker hmarker]⟩
      · cases hheader
    · cases hheader
    · cases hheader
  · cases hheader

/-- The header of a plain rule with its marker and code put in again is the same header. -/
theorem headerOf_widened {kind : AffixKind} {code : Code} {combinable : Bool} {count : Nat}
    {line other : Text} (hplain : shift (columns line) = 0)
    (hheader : headerOf line = .rule kind code combinable count)
    (hwidens : Widens kind code line other) :
    headerOf other = .rule kind code combinable count := by
  obtain ⟨first, second, rest, hline, hother⟩ := hwidens.exists_columns
  have hrule := readRuleHeader_of_rule hheader
  obtain ⟨others, hcolumns⟩ := exists_columns_of_header hplain hrule
  have hfirst : first = kind.marker ∧ second = code := by
    rw [hline] at hcolumns
    simpa using And.intro (List.cons.inj hcolumns).1 (List.cons.inj (List.cons.inj hcolumns).2).1
  obtain ⟨hfirst, hsecond⟩ := hfirst
  rw [hfirst, hsecond] at hline hother
  rw [hline] at hplain hrule
  have hmarked : (AffixKind.ofMarker? kind.marker).isSome = true := by
    rw [AffixKind.ofMarker?_marker]
    rfl
  unfold headerOf readHeader
  rw [hother]
  simp only [hmarked, if_true]
  unfold readRuleHeader at hrule ⊢
  rw [hplain] at hrule
  rw [shift_marker]
  exact hrule

/-! ### Files with other layouts -/

/-- A line of a rule is left as it is, or it is in the plain layout and gets two more columns. -/
def EntryRelaid (entry other : Text) : Prop :=
  other = entry ∨ shift (columns entry) = 0 ∧ ∃ marked word, Widens marked word entry other

/-- The lines of a file, and its lines in other layouts: each block is left as it is, or it is a
rule and any of its lines in the plain layout get two more columns. -/
inductive Relaid : (lines others : List Text) → Prop
  | nil : Relaid [] []
  | kept (line : Text) {rest others : List Text}
      (hblock : others.take (headerOf line).count = rest.take (headerOf line).count)
      (hrest : Relaid (rest.drop (headerOf line).count) (others.drop (headerOf line).count)) :
      Relaid (line :: rest) (line :: others)
  | rule {kind : AffixKind} {code : Code} {combinable : Bool} {count : Nat} {line other : Text}
      {rest others : List Text} (hheader : headerOf line = .rule kind code combinable count)
      (hline : other = line ∨ shift (columns line) = 0 ∧ Widens kind code line other)
      (hentries : List.Forall₂ EntryRelaid (rest.take count) (others.take count))
      (hrest : Relaid (rest.drop count) (others.drop count)) :
      Relaid (line :: rest) (other :: others)

/-- Lists whose starts and ends are equally long are equally long. -/
theorem length_eq_of_take_drop {α : Type} {n : Nat} {first second : List α}
    (htake : (second.take n).length = (first.take n).length)
    (hdrop : (second.drop n).length = (first.drop n).length) : second.length = first.length := by
  simp only [List.length_take, List.length_drop] at htake hdrop
  omega

/-- A file has as many lines in other layouts. -/
theorem Relaid.length_eq {lines others : List Text} (hrelaid : Relaid lines others) :
    others.length = lines.length := by
  induction hrelaid with
  | nil => rfl
  | kept line hblock hrest ih =>
      exact congrArg Nat.succ (length_eq_of_take_drop (congrArg List.length hblock) ih)
  | rule hheader hline hentries hrest ih =>
      exact congrArg Nat.succ (length_eq_of_take_drop hentries.length_eq.symm ih)

/-- The lines of a rule in other layouts give the same entries. -/
theorem entriesOf_relaid {kind : AffixKind} {lines others : List Text}
    (hentries : List.Forall₂ EntryRelaid lines others) :
    entriesOf kind others = entriesOf kind lines := by
  induction hentries with
  | nil => rfl
  | cons hentry hrest ih =>
      rename_i line other lines others
      have hsame : (readEntry kind other).toOption = (readEntry kind line).toOption := by
        obtain rfl | ⟨hplain, marked, word, hwidens⟩ := hentry
        · rfl
        · exact toOption_readEntry_widened hplain hwidens
      rw [entriesOf, entriesOf, List.filterMap_cons, List.filterMap_cons, hsame, ← entriesOf,
        ← entriesOf, ih]

/-- The same statements are read from lines in other layouts, and the same error is found. -/
theorem value_readFrom_relaid {lines others : List Text} (hrelaid : Relaid lines others)
    (number : Nat) : (readFrom number others).value = (readFrom number lines).value := by
  induction hrelaid generalizing number with
  | nil => rfl
  | kept line hblock hrest ih =>
      have hlength := length_eq_of_take_drop (congrArg List.length hblock) hrest.length_eq
      rw [value_readFrom_cons, value_readFrom_cons, hlength, hblock, ih]
  | rule hheader hline hentries hrest ih =>
      rename_i kind code combinable count line other rest others
      have hlength := length_eq_of_take_drop hentries.length_eq.symm hrest.length_eq
      have hother : headerOf other = .rule kind code combinable count := by
        obtain rfl | ⟨hplain, hwidens⟩ := hline
        · exact hheader
        · exact headerOf_widened hplain hheader hwidens
      have hcount : (Header.rule kind code combinable count).count = count := rfl
      rw [value_readFrom_cons, value_readFrom_cons, hother, hheader, hlength, hcount, ih,
        Header.statement?, Header.statement?, entriesOf_relaid hentries]

end Statement

/-- A file in which lines of plain rules get the two columns of the other layout is read as the same
grammar, or it is truncated in the same block. -/
theorem Grammar.value_read_of_relaid {text other : Text}
    (hrelaid : Statement.Relaid (Text.lines (Text.dropMark text))
      (Text.lines (Text.dropMark other))) :
    (Grammar.read other).value = (Grammar.read text).value := by
  rw [value_read, value_read, Statement.readAll, Statement.readAll,
    Statement.value_readFrom_relaid hrelaid]

/-- A rule whose header, first and third entry get the two columns, the first without a condition
and the third too short to be read, and a rule that is left as it is. -/
theorem Grammar.value_read_of_relaid_mixed :
    let text := ("SFX A Y 3 # plural\nSFX A 0 s\nSFX A y ies/B y\nSFX A\n" ++
      "PFX B N 1\nPFX B 0 re .\n").toList
    let other := ("SFX A SFX A Y 3 # plural\nSFX A\tSFX x 0 s\nSFX A y ies/B y\nSFX A SFX A\n" ++
      "PFX B N 1\nPFX B 0 re .\n").toList
    Statement.Relaid (Text.lines (Text.dropMark text)) (Text.lines (Text.dropMark other)) ∧
      (Grammar.read other).value = (Grammar.read text).value ∧
      ((Grammar.read text).value.map (·.rules.size)).toOption = some 2 := by
  intro text other
  have hwidens (word tail left : Text)
      (hpieces : tail.head?.all isBlank = true ∧ (left ≠ [] ∧ left.all isBlank = true) ∧
        word.IsColumn ∧ word ≠ []) :
      Statement.Widens .trailing word ("SFX A".toList ++ tail)
        ("SFX A".toList ++ (left ++ (AffixKind.trailing.marker ++ ([' '] ++ (word ++ tail))))) :=
    .behind (by decide) (by decide) ((Option.all_eq_true _ _).mp hpieces.1)
      ⟨hpieces.2.1.1, List.all_eq_true.mp hpieces.2.1.2⟩
      ⟨by decide, List.all_eq_true.mp (by decide)⟩ hpieces.2.2.1 hpieces.2.2.2
  have hlines : Text.lines (Text.dropMark text) =
      ["SFX A".toList ++ " Y 3 # plural".toList, "SFX A".toList ++ " 0 s".toList,
        "SFX A y ies/B y".toList, "SFX A".toList ++ [], "PFX B N 1".toList,
        "PFX B 0 re .".toList] := by decide +kernel
  have hothers : Text.lines (Text.dropMark other) =
      ["SFX A".toList ++ ([' '] ++ (AffixKind.trailing.marker ++ ([' '] ++
          (['A'] ++ " Y 3 # plural".toList)))),
        "SFX A".toList ++ (['\t'] ++ (AffixKind.trailing.marker ++ ([' '] ++
          (['x'] ++ " 0 s".toList)))),
        "SFX A y ies/B y".toList,
        "SFX A".toList ++ ([' '] ++ (AffixKind.trailing.marker ++ ([' '] ++ (['A'] ++ [])))),
        "PFX B N 1".toList, "PFX B 0 re .".toList] := by decide +kernel
  have hrelaid : Statement.Relaid (Text.lines (Text.dropMark text))
      (Text.lines (Text.dropMark other)) := by
    have hheader : Statement.headerOf ("SFX A".toList ++ " Y 3 # plural".toList) =
        .rule .trailing ['A'] true 3 := by decide +kernel
    rw [hlines, hothers]
    refine .rule hheader (.inr ⟨by decide +kernel, hwidens _ _ _ (by decide)⟩)
      (.cons ?_ (.cons ?_ (.cons ?_ .nil))) ?_
    · exact .inr ⟨by decide +kernel, .trailing, ['x'], hwidens _ _ _ (by decide)⟩
    · exact .inl rfl
    · exact .inr ⟨by decide +kernel, .trailing, ['A'], hwidens _ _ _ (by decide)⟩
    · have hcount : (Statement.headerOf "PFX B N 1".toList).count = 1 := by decide +kernel
      exact .kept _ rfl (by rw [hcount]; exact .nil)
  exact ⟨hrelaid, Grammar.value_read_of_relaid hrelaid, by decide +kernel⟩

end Orthography
