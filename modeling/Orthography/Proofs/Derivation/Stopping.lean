import Orthography.Proofs.Derivation.Recursive

/-!
# Looking for one form

A walk with a form to stop at takes the same way as the walk that visits all forms, and leaves it at
the first form that will do, with frames still on its stack (`Derivation.forms_walk_of_stop`).  So
looking for a word finds it exactly if it is among all forms, by rule and by code; the sentinel and
codes without a rule find nothing (`Grammar.derives_iff_mem_forms`).
-/

namespace Orthography

namespace Derivation

/-- A walk that nothing stops goes on behind a form with all that is derived from it. -/
theorem forms_walk_cons {grammar : Grammar} {base form : Text} {kind : AffixKind}
    {entry : AffixEntry} {entries : List AffixEntry} {trail : List Code} {stack : List Frame}
    (hsome : entry.derive? kind base = some form) :
    (walk grammar (fun _ => false) (⟨base, kind, entry :: entries, trail⟩ :: stack)).forms =
      form :: (walk grammar (fun _ => false) (frames grammar trail form entry.continuation ++
        ⟨base, kind, entries, trail⟩ :: stack)).forms := by
  rw [walk, hsome]
  rfl

/-- A walk with forms to stop at visits all forms up to the first of these. -/
theorem forms_walk_of_stop (grammar : Grammar) (stop : Text → Bool) (stack : List Frame) :
    (walk grammar stop stack).forms = (walk grammar (fun _ => false) stack).forms.take
      ((walk grammar (fun _ => false) stack).forms.findIdx stop + 1) := by
  fun_induction walk grammar stop stack with
  | case1 => simp [walk]
  | case2 base kind trail stack ih => rwa [walk]
  | case3 base kind entry entries trail stack hnone ih =>
      rw [walk, hnone]
      exact ih
  | case4 base kind entry entries trail stack form hsome hstop =>
      rw [forms_walk_cons hsome, List.findIdx_cons, hstop]
      rfl
  | case5 base kind entry entries trail stack form hsome hgoing later ih =>
      rw [Bool.not_eq_true] at hgoing
      rw [forms_walk_cons hsome, List.findIdx_cons, hgoing, cond_false, List.take_succ_cons, ← ih]

/-- A walk with forms to stop at is stopped if one of these is among all forms. -/
theorem stopped_walk_of_stop (grammar : Grammar) (stop : Text → Bool) (stack : List Frame) :
    (walk grammar stop stack).stopped = (walk grammar (fun _ => false) stack).forms.any stop := by
  rw [Bool.eq_iff_iff, stopped_walk, List.any_eq_true]
  simp only [mem_forms_walk]

end Derivation

namespace Grammar

open Orthography.Derivation

variable {grammar : Grammar} {code : Code} {rule : AffixRule} {stem word : Text}

/-- A walk over what a rule derives that looks for a word is stopped exactly if the word is
derived. -/
theorem stopped_walkFrom_iff {trail : List Code} :
    (grammar.walkFrom (· == word) trail rule stem).stopped = true ↔
      word ∈ grammar.derived trail rule stem := by
  rw [← forms_walkFrom, walkFrom, walkFrom, stopped_walk_of_stop, List.any_beq',
    List.contains_iff_mem]

/-- The loop that looks for a word comes to an end.  It is stopped exactly if the word is derived,
and has then visited what is derived up to the word. -/
theorem exists_endsIn_search (grammar : Grammar) (trail : List Code) (rule : AffixRule)
    (stem word : Text) :
    ∃ last, EndsIn grammar (· == word) (.start trail rule stem) last ∧
      (last.stopped = true ↔ word ∈ grammar.derived trail rule stem) ∧
      last.visited = (grammar.derived trail rule stem).take
        ((grammar.derived trail rule stem).idxOf word + 1) := by
  obtain ⟨last, hends, hvisited, hstopped⟩ :=
    exists_endsIn grammar (· == word) [⟨stem, rule.kind, rule.entries, trail⟩]
  refine ⟨last, hends, ?_, ?_⟩
  · rw [hstopped]
    exact stopped_walkFrom_iff
  · rw [hvisited, forms_walk_of_stop, ← forms_walkFrom]
    rfl

/-- By rule, a word is found exactly if it is among the forms. -/
theorem derivesByRule_iff :
    (grammar.derivesByRule rule stem word).value = true ↔
      word ∈ (grammar.formsByRule rule stem).value := by
  rw [derivesByRule, Logged.value_noting, stopped_walkFrom_iff, value_formsByRule]

/-- By a code that names no rule, nothing is found. -/
theorem derivesByCode_eq_false (hcode : code = Code.sentinel ∨ grammar.rule? code = none)
    (stem word : Text) : (grammar.derivesByCode code stem word).value = false := by
  rw [derivesByCode, value_byCode]
  split
  · rename_i rule hfollow
    obtain ⟨hsentinel, -, hrule⟩ := follow_eq_rule_iff.mp hfollow
    rw [hrule] at hcode
    exact absurd (hcode.resolve_left hsentinel) (Option.some_ne_none rule)
  · rfl

/-- Looking for a word and listing all forms agree, by every code and by every rule, and by the
sentinel and by a code without a rule nothing is found. -/
theorem derives_iff_mem_forms (grammar : Grammar) (stem word : Text) :
    (∀ code, (grammar.derivesByCode code stem word).value = true ↔
        word ∈ (grammar.formsByCode code stem).value) ∧
      (∀ rule, (grammar.derivesByRule rule stem word).value = true ↔
        word ∈ (grammar.formsByRule rule stem).value) ∧
      ∀ code, code = Code.sentinel ∨ grammar.rule? code = none →
        (grammar.derivesByCode code stem word).value = false :=
  ⟨fun _ => derivesByCode_iff_mem_formsByCode, fun _ => derivesByRule_iff,
    fun _ hcode => derivesByCode_eq_false hcode stem word⟩

/-- A form by a continuation is found, and nothing is found by the sentinel or an unknown code. -/
theorem derives_iff_mem_forms_continued :
    ∃ grammar : Grammar, grammar.rule? ['Q', 'Q'] = none ∧
      "poniesen".toList ∈ (grammar.formsByCode ['P', 'L'] "pony".toList).value ∧
      (grammar.derivesByCode ['P', 'L'] "pony".toList "poniesen".toList).value = true ∧
      (grammar.derivesByCode ['Q', 'Q'] "pony".toList "poniesen".toList).value = false ∧
      (grammar.derivesByCode Code.sentinel "pony".toList "poniesen".toList).value = false := by
  let affix := "SFX PL Y 1\nSFX PL y ies/NE .\nSFX NE Y 1\nSFX NE 0 en .\n".toList
  let grammar := (Grammar.read affix).value.toOption.getD .empty
  have hunknown : grammar.rule? ['Q', 'Q'] = none := by decide +kernel
  have hform : "poniesen".toList ∈ (grammar.formsByCode ['P', 'L'] "pony".toList).value := by
    decide +kernel
  obtain ⟨hbyCode, -, hnothing⟩ :=
    derives_iff_mem_forms grammar "pony".toList "poniesen".toList
  exact ⟨grammar, hunknown, hform, (hbyCode _).mpr hform, hnothing _ (.inr hunknown),
    hnothing _ (.inl rfl)⟩

end Grammar

end Orthography
