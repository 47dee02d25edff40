import Orthography.Proofs.Affix.Gathered
import Orthography.Proofs.Pattern.FixedWidth

/-!
# What rules take away

The reader of affix files looks for what a rule takes away at the end at which the rule adds.  So in
every grammar that was read a rule that adds at the end takes away matches of conditions at the end,
and one that adds at the start takes away text at the start.  Where `Removal.reach` is a limit at
all, no more than that is lost, and only at that end.
-/

namespace Orthography

open Pattern (eq_ok_of_bind fixedWidth_of_read)

/-- Something is taken away at the end at which rules of a kind add. -/
def Removal.IsAt : AffixKind → Removal → Prop
  | .trailing, .trailing condition => condition.anchor = .stop
  | .leading, .leading _ => True
  | _, _ => False

/-- All entries of a rule take away at the end at which the rule adds. -/
def AffixRule.Coherent (rule : AffixRule) : Prop :=
  ∀ entry ∈ rule.entries, ∀ removal, entry.remove = some removal → removal.IsAt rule.kind

/-- All rules of a grammar take away where they add. -/
def Grammar.Coherent (grammar : Grammar) : Prop :=
  ∀ code rule, grammar.rule? code = some rule → rule.Coherent

/-! ### Reading rules -/

/-- A condition has the anchor that it was read with. -/
theorem Condition.anchor_ofSource {source : Text} {anchor : Anchor} {condition : Condition}
    (hread : ofSource source anchor = .ok condition) : condition.anchor = anchor := by
  unfold ofSource at hread
  split at hread
  · cases hread
    rfl
  · cases hread

namespace Statement

/-- A statement that gives a rule gives a coherent one. -/
def Coherent : Statement → Prop
  | .rule _ affixRule => affixRule.Coherent
  | _ => True

/-- What is read from the column for removals is taken away at the right end. -/
theorem isAt_readRemoval {kind : AffixKind} {column : Text} {removal : Removal}
    (hread : readRemoval kind column = .ok (some removal)) : removal.IsAt kind := by
  unfold readRemoval at hread
  split at hread
  · cases hread
  · cases kind with
    | leading =>
        cases hread
        trivial
    | trailing =>
        dsimp only at hread
        split at hread
        · rename_i condition hcondition
          cases hread
          exact Condition.anchor_ofSource hcondition
        · split at hread
          · rename_i condition hcondition
            cases hread
            exact Condition.anchor_ofSource hcondition
          · cases hread

/-- What an entry that is read takes away is at the right end. -/
theorem isAt_readEntry {kind : AffixKind} {line : Text} {entry : AffixEntry} {removal : Removal}
    (hread : readEntry kind line = .ok entry) (hremove : entry.remove = some removal) :
    removal.IsAt kind := by
  unfold readEntry at hread
  dsimp only at hread
  split at hread
  · obtain ⟨condition, -, hread⟩ := eq_ok_of_bind hread
    obtain ⟨remove, hcolumn, hread⟩ := eq_ok_of_bind hread
    cases hread
    rw [show remove = some removal from hremove] at hcolumn
    exact isAt_readRemoval hcolumn
  · cases hread

/-- The entries in the lines of a rule take away at the right end. -/
theorem isAt_of_mem_entriesOf {kind : AffixKind} {lines : List Text} {entry : AffixEntry}
    {removal : Removal} (hentry : entry ∈ entriesOf kind lines)
    (hremove : entry.remove = some removal) : removal.IsAt kind := by
  obtain ⟨line, -, hline⟩ := List.mem_filterMap.mp hentry
  cases hread : readEntry kind line with
  | error reason =>
      rw [hread] at hline
      cases hline
  | ok read =>
      rw [hread] at hline
      cases hline
      exact isAt_readEntry hread hremove

/-- All statements of a file are coherent. -/
theorem coherent_readFrom {number : Nat} {lines : List Text} {statements : List Statement}
    (hread : (readFrom number lines).value = .ok statements) :
    ∀ statement ∈ statements, statement.Coherent := by
  refine forall_mem_of_readFrom ?_ ?_ ?_ ?_ hread
  · exact fun kind code combinable lines entry hentry removal hremove =>
      isAt_of_mem_entriesOf hentry hremove
  · exact fun lines => trivial
  · exact fun given => trivial
  · exact fun name value => trivial

/-- All rules of a grammar of coherent statements are coherent. -/
theorem coherent_foldl_add {statements : List Statement} (grammar : Grammar)
    (hgrammar : grammar.Coherent) (hstatements : ∀ statement ∈ statements, statement.Coherent) :
    (statements.foldl Grammar.add grammar).Coherent := by
  induction statements generalizing grammar with
  | nil => exact hgrammar
  | cons statement rest ih =>
      refine ih _ ?_ fun other hother => hstatements other (List.mem_cons_of_mem _ hother)
      have hstatement := hstatements statement List.mem_cons_self
      cases statement with
      | rule code affixRule =>
          intro other found hfound
          rw [Grammar.rule?, Grammar.add, Table.get?_insert] at hfound
          split at hfound
          · cases hfound
            exact hstatement
          · exact hgrammar other found hfound
      | compounds rules => exact hgrammar
      | replacement replacement => exact hgrammar
      | setting name value => exact hgrammar

end Statement

/-- Every grammar that is read takes away where it adds. -/
theorem Grammar.coherent_read {affix : Text} {grammar : Grammar}
    (hread : (Grammar.read affix).value = .ok grammar) : grammar.Coherent := by
  obtain ⟨statements, hstatements, rfl⟩ := exists_readAll_of_read hread
  have hempty : Grammar.empty.Coherent := by
    intro code rule hrule
    cases hrule
  exact Statement.coherent_foldl_add _ hempty (Statement.coherent_readFrom hstatements)

/-! ### Losses -/

namespace Removal

/-- Where a removal at the end of a stem is limited, it leaves the start of the stem and takes away
no more than its limit. -/
theorem apply_trailing {condition : Condition} (hanchor : condition.anchor = .stop)
    (hlimited : (trailing condition).reach < unlimited) (stem : Text) :
    ∃ kept, (trailing condition).apply stem = stem.take kept ∧
      stem.length ≤ kept + (trailing condition).reach := by
  simp only [reach] at hlimited ⊢
  split at hlimited
  · rename_i hfixed
    have hread := condition.read
    rw [hanchor] at hread
    obtain ⟨hends, hwidth⟩ := fixedWidth_of_read hfixed hread
    rw [if_pos hfixed, Nat.min_eq_left (by omega)]
    exact Pattern.Node.strip_eq_take hends hwidth stem
  · omega

/-- Where a removal at the start of a stem is limited, it leaves the end of the stem and takes away
no more than its limit. -/
theorem apply_leading {text : Text} (hlimited : (leading text).reach < unlimited) (stem : Text) :
    ∃ dropped, (leading text).apply stem = stem.drop dropped ∧
      dropped ≤ (leading text).reach := by
  simp only [reach] at hlimited ⊢
  rw [Nat.min_eq_left (by omega), apply]
  cases hstart : text.isPrefixOf? stem with
  | none => exact ⟨0, rfl, Nat.zero_le _⟩
  | some rest =>
      refine ⟨text.length, ?_, le_rfl⟩
      rw [← List.isPrefixOf?_eq_some_iff_append_eq.mp hstart, List.drop_left, Option.getD_some]

end Removal

namespace AffixEntry

/-- An entry that takes away at the end, and no more than some limit, leaves the start of a stem. -/
theorem base_trailing {entry : AffixEntry} {limit : Nat} (hlimited : limit < unlimited)
    (hremove : ∀ removal, entry.remove = some removal →
      removal.IsAt .trailing ∧ removal.reach ≤ limit) (stem : Text) :
    ∃ kept, entry.base stem = stem.take kept ∧ stem.length ≤ kept + limit := by
  unfold base
  split
  · rename_i removal hsome
    obtain ⟨hat, hreach⟩ := hremove removal hsome
    cases removal with
    | leading text => cases hat
    | trailing condition =>
        obtain ⟨kept, hkept, hlength⟩ :=
          Removal.apply_trailing hat (lt_of_le_of_lt hreach hlimited) stem
        exact ⟨kept, hkept, by omega⟩
  · exact ⟨stem.length, List.take_length.symm, Nat.le_add_right _ _⟩

/-- An entry that takes away at the start, and no more than some limit, leaves the end of a stem. -/
theorem base_leading {entry : AffixEntry} {limit : Nat} (hlimited : limit < unlimited)
    (hremove : ∀ removal, entry.remove = some removal →
      removal.IsAt .leading ∧ removal.reach ≤ limit) (stem : Text) :
    ∃ dropped, entry.base stem = stem.drop dropped ∧ dropped ≤ limit := by
  unfold base
  split
  · rename_i removal hsome
    obtain ⟨hat, hreach⟩ := hremove removal hsome
    cases removal with
    | trailing condition => cases hat
    | leading text =>
        obtain ⟨dropped, hdropped, hlength⟩ :=
          Removal.apply_leading (lt_of_le_of_lt hreach hlimited) stem
        exact ⟨dropped, hdropped, hlength.trans hreach⟩
  · exact ⟨0, rfl, Nat.zero_le _⟩

end AffixEntry

/-! ### What entries that were read take away -/

/-- A stem loses no more than some number of characters at the end at which rules of a kind add, and
is otherwise left as it is. -/
def AffixKind.Loses (stem rest : Text) (limit : Nat) : AffixKind → Prop
  | .leading => ∃ lost, stem = lost ++ rest ∧ lost.length ≤ limit
  | .trailing => ∃ lost, stem = rest ++ lost ∧ lost.length ≤ limit

namespace Removal

/-- Where a removal at the right end is limited, a stem loses no more than its limit. -/
theorem IsAt.loses {kind : AffixKind} {removal : Removal} (hat : removal.IsAt kind)
    (hlimited : removal.reach < unlimited) (stem : Text) :
    kind.Loses stem (removal.apply stem) removal.reach := by
  cases removal with
  | trailing condition =>
      cases kind with
      | leading => cases hat
      | trailing =>
          obtain ⟨kept, hkept, hlength⟩ := apply_trailing hat hlimited stem
          refine ⟨stem.drop kept, ?_, ?_⟩
          · rw [hkept, List.take_append_drop]
          · rw [List.length_drop]
            omega
  | leading text =>
      cases kind with
      | trailing => cases hat
      | leading =>
          obtain ⟨dropped, hdropped, hlength⟩ := apply_leading hlimited stem
          refine ⟨stem.take dropped, ?_, ?_⟩
          · rw [hdropped, List.take_append_drop]
          · exact (List.length_take_le _ _).trans hlength

/-- Whatever an entry that was read takes away: where it is limited, a stem loses no more characters
than the limit, at the end at which the entry adds, and nothing else. -/
theorem loses_of_readEntry {kind : AffixKind} {line : Text} {entry : AffixEntry}
    {removal : Removal} (hread : Statement.readEntry kind line = .ok entry)
    (hremove : entry.remove = some removal) (hlimited : removal.reach < unlimited) (stem : Text) :
    kind.Loses stem (removal.apply stem) removal.reach :=
  (Statement.isAt_readEntry hread hremove).loses hlimited stem

/-- A class and a group count with all that they are written with: the limit is nine for two
characters. -/
theorem loses_of_readEntry_class :
    ∃ entry removal,
      Statement.readEntry .trailing "SFX BS [^aeu](y) ies".toList = .ok entry ∧
        entry.remove = some removal ∧ removal.reach = 9 ∧ removal.reach < unlimited ∧
        removal.apply "pony".toList = "po".toList ∧
        AffixKind.trailing.Loses "pony".toList (removal.apply "pony".toList) removal.reach := by
  let entry := (Statement.readEntry .trailing "SFX BS [^aeu](y) ies".toList).toOption.getD
    ⟨[], none, none, []⟩
  let removal := entry.remove.getD (.leading [])
  have hread : Statement.readEntry .trailing "SFX BS [^aeu](y) ies".toList = .ok entry := by
    decide +kernel
  have hremove : entry.remove = some removal := by decide +kernel
  have hreach : removal.reach = 9 := by decide +kernel
  have hlimited : removal.reach < unlimited := by
    rw [hreach]
    decide
  have hstrip : removal.apply "pony".toList = "po".toList := by decide +kernel
  exact ⟨entry, removal, hread, hremove, hreach, hlimited, hstrip,
    loses_of_readEntry hread hremove hlimited "pony".toList⟩

end Removal

end Orthography
