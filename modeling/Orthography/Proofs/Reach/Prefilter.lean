import Orthography.Lexicon
import Orthography.Proofs.Reach.Closure

/-!
# The test of roots turns no form away

Before an entry is derived from, its root is looked for in the word.  The bound for the root is
merged from those of all the entry's codes, and each of these is a sum over all rules that the code
can lead to.  So it is no less than what is lost on any path to a form, and the test lets every form
of the entry pass.
-/

namespace Orthography

/-- A part occurs in a text if it is the start of one of its ends. -/
theorem Text.contains_iff {part word : Text} : Text.contains part word = true ↔ part <:+: word := by
  induction word with
  | nil => simp [contains]
  | cons c word ih =>
      rw [contains, Bool.or_eq_true, List.isPrefixOf_iff_prefix, ih, List.infix_cons_iff]

namespace Reach

/-- A bound allows what it allows. -/
theorem Within.refl (reach : Reach) : reach.Within reach := ⟨le_rfl, le_rfl, id⟩

/-- What a narrow bound allows, a wide one allows too. -/
theorem Within.trans {narrow middle wide : Reach} (hnarrow : narrow.Within middle)
    (hwide : middle.Within wide) : narrow.Within wide :=
  ⟨hnarrow.leading.trans hwide.leading, hnarrow.trailing.trans hwide.trailing,
    fun hprepends => hwide.prepends (hnarrow.prepends hprepends)⟩

/-- A merged bound allows what the first of the two allows. -/
theorem within_merge_left (a b : Reach) : a.Within (a.merge b) :=
  ⟨Nat.le_max_left _ _, Nat.le_max_left _ _, fun ha => by simp [merge, ha]⟩

/-- A merged bound allows what the second of the two allows. -/
theorem within_merge_right (a b : Reach) : b.Within (a.merge b) :=
  ⟨Nat.le_max_right _ _, Nat.le_max_right _ _, fun hb => by simp [merge, hb]⟩

/-- Several bounds merged allow what each of them and the start allow, and are grounded if they
are. -/
theorem foldl_merge (reaches : List Reach) (start : Reach) (hstart : start.Grounded)
    (hgrounded : ∀ reach ∈ reaches, reach.Grounded) :
    (reaches.foldl merge start).Grounded ∧ start.Within (reaches.foldl merge start) ∧
      ∀ reach ∈ reaches, reach.Within (reaches.foldl merge start) := by
  induction reaches generalizing start with
  | nil => exact ⟨hstart, Within.refl start, fun reach hreach => by cases hreach⟩
  | cons first reaches ih =>
      obtain ⟨hmerged, hwithin, hall⟩ := ih (start.merge first)
        (hstart.merge (hgrounded first List.mem_cons_self))
        fun reach hreach => hgrounded reach (List.mem_cons_of_mem _ hreach)
      refine ⟨hmerged, (within_merge_left start first).trans hwithin, fun reach hreach => ?_⟩
      rcases List.mem_cons.mp hreach with rfl | hreach
      · exact (within_merge_right start reach).trans hwithin
      · exact hall reach hreach

end Reach

namespace Grammar

variable {grammar : Grammar} {code : Code}

/-- The bound of a code is the bound of a path through all rules that it can lead to. -/
theorem reachOfCode_eq (grammar : Grammar) (code : Code) :
    grammar.reachOfCode code = Reach.ofPath (grammar.meet [] [code]) := rfl

/-- Every form that a code derives keeps the stem within the bound of the code. -/
theorem keeps_of_mem_formsByCode {stem form : Text} (hcoherent : grammar.Coherent)
    (hform : form ∈ (grammar.formsByCode code stem).value) :
    (grammar.reachOfCode code).Keeps stem form := by
  obtain ⟨rule, hfollow, hgives⟩ := mem_formsByCode.mp hform
  obtain ⟨hclosed, hfirst⟩ := closed_meet_single hfollow
  have honPath : Derivation.OnPath grammar (grammar.meet [] [code]) stem [] (code, rule)
      (frameOf code rule stem) :=
    { kind := rfl
      entries := rfl
      trail := rfl
      fresh := List.nodup_singleton code
      named := (follow_eq_rule_iff.mp hfollow).2.2
      inside := by
        intro next hnext
        rw [List.mem_singleton.mp hnext]
        exact hfirst
      keeps := Reach.keeps_none stem }
  obtain ⟨whole, hwhole, hkeeps⟩ := honPath.exists_keeps hcoherent hclosed hgives
  rw [reachOfCode_eq]
  exact hkeeps.mono (Reach.within_ofPath hwhole) (Reach.grounded_ofPath _)

/-- The bound of a code that names a rule is in the table. -/
theorem get?_reachTable {rule : AffixRule} (hrule : grammar.rule? code = some rule) :
    grammar.reachTable.get? code = some (grammar.reachOfCode code) := by
  rw [reachTable, Table.get?_map, ← rule?, hrule, Option.map_some]

/-- Every form that a code of an entry derives keeps the stem within the bound of the entry. -/
theorem keeps_reachOf {entry : Entry} {form : Text} (hcoherent : grammar.Coherent)
    (hcode : code ∈ entry.codes)
    (hform : form ∈ (grammar.formsByCode code entry.stem).value) :
    (reachOf grammar.reachTable entry).Keeps entry.stem form := by
  obtain ⟨rule, hfollow, -⟩ := mem_formsByCode.mp hform
  have hgrounded : ∀ reach ∈ entry.codes.filterMap grammar.reachTable.get?, reach.Grounded := by
    intro reach hreach
    obtain ⟨other, -, hother⟩ := List.mem_filterMap.mp hreach
    rw [reachTable, Table.get?_map, Option.map_eq_some_iff] at hother
    obtain ⟨_, -, rfl⟩ := hother
    exact Reach.grounded_ofPath _
  obtain ⟨hmerged, -, hall⟩ := Reach.foldl_merge _ Reach.none Reach.grounded_none hgrounded
  have hlisted : grammar.reachOfCode code ∈ entry.codes.filterMap grammar.reachTable.get? :=
    List.mem_filterMap.mpr ⟨code, hcode, get?_reachTable (follow_eq_rule_iff.mp hfollow).2.2⟩
  exact (keeps_of_mem_formsByCode hcoherent hform).mono (hall _ hlisted) hmerged

end Grammar

namespace Lexicon

/-- An entry whose bound keeps its stem in a word could give the word. -/
theorem couldGive_of_keeps {entry : Entry} {reach : Reach} {word : Text}
    (hkeeps : reach.Keeps entry.stem word) : couldGive entry reach word = true := by
  unfold couldGive
  unfold Reach.Keeps at hkeeps
  rw [Bool.or_eq_true]
  right
  dsimp only
  split
  · rename_i hprepends
    rw [if_pos hprepends] at hkeeps
    exact Text.contains_iff.mpr hkeeps
  · rename_i hprepends
    rw [if_neg hprepends] at hkeeps
    exact List.isPrefixOf_iff_prefix.mpr hkeeps

/-- The entries of a lexicon stand beside their bounds. -/
theorem stems_eq_map (lexicon : Lexicon) :
    lexicon.stems = lexicon.dictionary.entries.map fun entry =>
      (entry, Grammar.reachOf lexicon.grammar.reachTable entry) := by
  rw [stems, lexicon.reaches_eq, List.map_prod_left_eq_zip]

/-- The test of roots is sound: every form that a code of an entry derives, by continuations of any
depth, passes the test for the entry. -/
theorem mayDerive_of_mem_formsByCode {affix : Text} {lexicon : Lexicon}
    (hread : (Grammar.read affix).value = .ok lexicon.grammar) {index : Nat} {entry : Entry}
    (hentry : lexicon.dictionary.entries[index]? = some entry) {code : Code}
    (hcode : code ∈ entry.codes) {form : Text}
    (hform : form ∈ (lexicon.grammar.formsByCode code entry.stem).value) :
    lexicon.mayDerive index form = true := by
  rw [mayDerive, stems_eq_map, List.getElem?_map, hentry]
  exact couldGive_of_keeps
    (Grammar.keeps_reachOf (Grammar.coherent_read hread) hcode hform)

/-- A suffix that takes away a match of a class goes on to a prefix, and the form with both passes
the test for its entry. -/
theorem mayDerive_of_mem_formsByCode_chained :
    ∃ (affix : Text) (lexicon : Lexicon), (Grammar.read affix).value = .ok lexicon.grammar ∧
      lexicon.dictionary.entries[0]? = some ⟨"pave".toList, [], [['E', 'D']]⟩ ∧
      "unpaved".toList ∈ (lexicon.grammar.formsByCode ['E', 'D'] "pave".toList).value ∧
      lexicon.mayDerive 0 "unpaved".toList = true := by
  let affix := "SFX ED Y 1\nSFX ED [ey] ed/UN .\nPFX UN Y 1\nPFX UN 0 un .\n".toList
  let grammar := (Grammar.read affix).value.toOption.getD .empty
  let lexicon := (build grammar ⟨[⟨"pave".toList, [], [['E', 'D']]⟩]⟩).value
  have hread : (Grammar.read affix).value = .ok lexicon.grammar := by decide +kernel
  have hform : "unpaved".toList ∈
      (lexicon.grammar.formsByCode ['E', 'D'] "pave".toList).value := by decide +kernel
  exact ⟨affix, lexicon, hread, rfl, hform,
    mayDerive_of_mem_formsByCode hread rfl (List.mem_singleton_self _) hform⟩

end Lexicon

end Orthography
