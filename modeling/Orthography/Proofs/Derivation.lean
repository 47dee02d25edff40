import Mathlib.Tactic.Tauto
import Orthography.Derivation

/-!
# What derivation derives

A frame gives a form if one of its entries derives it, or derives another form from which it comes
by a continuation.  This relation does not speak of stacks, order or records.  A walk visits exactly
the forms that the frames of its stack give, and one with a form to stop at is stopped exactly if
they give such a form.  So the walk that collects all forms and the walk that looks for one word
agree.
-/

namespace Orthography

namespace Derivation

/-- A form comes from a frame by one of its entries, or by a continuation of one. -/
inductive Gives (grammar : Grammar) : Frame → Text → Prop
  | here {frame : Frame} {entry : AffixEntry} {form : Text} (hentry : entry ∈ frame.entries)
      (hform : entry.derive? frame.kind frame.base = some form) : Gives grammar frame form
  | further {frame next : Frame} {entry : AffixEntry} {middle form : Text}
      (hentry : entry ∈ frame.entries)
      (hmiddle : entry.derive? frame.kind frame.base = some middle)
      (hnext : next ∈ frames grammar frame.trail middle entry.continuation)
      (hgives : Gives grammar next form) : Gives grammar frame form

/-- Some frame of a stack gives a form. -/
def StackGives (grammar : Grammar) (stack : List Frame) (form : Text) : Prop :=
  ∃ frame ∈ stack, Gives grammar frame form

section Stacks

variable {grammar : Grammar} {base form middle : Text} {kind : AffixKind} {entry : AffixEntry}
  {entries : List AffixEntry} {trail : List Code} {frame : Frame} {stack first second : List Frame}

theorem not_stackGives_nil : ¬ StackGives grammar [] form := by
  rintro ⟨frame, hframe, -⟩
  cases hframe

theorem stackGives_cons :
    StackGives grammar (frame :: stack) form ↔
      Gives grammar frame form ∨ StackGives grammar stack form := by
  simp [StackGives]

theorem stackGives_append :
    StackGives grammar (first ++ second) form ↔
      StackGives grammar first form ∨ StackGives grammar second form := by
  simp [StackGives, or_and_right, exists_or]

/-- A frame without entries gives nothing. -/
theorem not_gives_nil : ¬ Gives grammar ⟨base, kind, [], trail⟩ form := by
  intro hgives
  cases hgives with
  | here hentry => cases hentry
  | further hentry => cases hentry

/-- More entries give more. -/
theorem Gives.cons (hgives : Gives grammar ⟨base, kind, entries, trail⟩ form) :
    Gives grammar ⟨base, kind, entry :: entries, trail⟩ form := by
  cases hgives with
  | here hentry hform => exact .here (List.mem_cons_of_mem _ hentry) hform
  | further hentry hmiddle hnext hgives =>
      exact .further (List.mem_cons_of_mem _ hentry) hmiddle hnext hgives

/-- An entry whose condition does not admit the base gives nothing. -/
theorem gives_cons_of_none (hnone : entry.derive? kind base = none) :
    Gives grammar ⟨base, kind, entry :: entries, trail⟩ form ↔
      Gives grammar ⟨base, kind, entries, trail⟩ form := by
  refine ⟨fun hgives => ?_, Gives.cons⟩
  cases hgives with
  | here hentry hform =>
      rcases List.mem_cons.mp hentry with rfl | hentry
      · rw [hnone] at hform
        cases hform
      · exact .here hentry hform
  | further hentry hmiddle hnext hgives =>
      rcases List.mem_cons.mp hentry with rfl | hentry
      · rw [hnone] at hmiddle
        cases hmiddle
      · exact .further hentry hmiddle hnext hgives

/-- An entry gives the form that it derives, and what comes of that by its continuation. -/
theorem gives_cons_of_some (hsome : entry.derive? kind base = some middle) :
    Gives grammar ⟨base, kind, entry :: entries, trail⟩ form ↔
      form = middle ∨ StackGives grammar (frames grammar trail middle entry.continuation) form ∨
        Gives grammar ⟨base, kind, entries, trail⟩ form := by
  constructor
  · intro hgives
    cases hgives with
    | here hentry hform =>
        rcases List.mem_cons.mp hentry with rfl | hentry
        · rw [hsome] at hform
          exact .inl (Option.some.inj hform).symm
        · exact .inr (.inr (.here hentry hform))
    | further hentry hmiddle hnext hgives =>
        rcases List.mem_cons.mp hentry with rfl | hentry
        · rw [hsome] at hmiddle
          cases hmiddle
          exact .inr (.inl ⟨_, hnext, hgives⟩)
        · exact .inr (.inr (.further hentry hmiddle hnext hgives))
  · rintro (rfl | ⟨next, hnext, hgives⟩ | hgives)
    · exact .here List.mem_cons_self hsome
    · exact .further List.mem_cons_self hsome hnext hgives
    · exact hgives.cons

end Stacks

/-! ### Walks -/

/-- A walk without a form to stop at visits exactly the forms that its frames give. -/
theorem mem_forms_walk (grammar : Grammar) (stack : List Frame) (form : Text) :
    form ∈ (walk grammar (fun _ => false) stack).forms ↔ StackGives grammar stack form := by
  fun_induction walk grammar (fun _ => false) stack with
  | case1 => simpa using not_stackGives_nil
  | case2 base kind trail stack ih =>
      rw [ih, stackGives_cons]
      exact (or_iff_right not_gives_nil).symm
  | case3 base kind entry entries trail stack hnone ih =>
      rw [ih, stackGives_cons, stackGives_cons, gives_cons_of_none hnone]
  | case4 base kind entry entries trail stack middle hsome hstop => cases hstop
  | case5 base kind entry entries trail stack middle hsome hstop later ih =>
      rw [List.mem_cons, ih, stackGives_append, stackGives_cons, stackGives_cons,
        gives_cons_of_some hsome]
      tauto

/-- A walk is stopped exactly if its frames give a form to stop at. -/
theorem stopped_walk (grammar : Grammar) (stop : Text → Bool) (stack : List Frame) :
    (walk grammar stop stack).stopped = true ↔
      ∃ form, StackGives grammar stack form ∧ stop form = true := by
  fun_induction walk grammar stop stack with
  | case1 =>
      constructor
      · intro hstopped
        cases hstopped
      · rintro ⟨form, hform, -⟩
        exact absurd hform not_stackGives_nil
  | case2 base kind trail stack ih =>
      rw [ih]
      refine exists_congr fun form => and_congr_left fun _ => ?_
      rw [stackGives_cons]
      exact (or_iff_right not_gives_nil).symm
  | case3 base kind entry entries trail stack hnone ih =>
      rw [ih]
      refine exists_congr fun form => and_congr_left fun _ => ?_
      rw [stackGives_cons, stackGives_cons, gives_cons_of_none hnone]
  | case4 base kind entry entries trail stack middle hsome hstop =>
      refine ⟨fun _ => ⟨middle, ?_, hstop⟩, fun _ => rfl⟩
      rw [stackGives_cons, gives_cons_of_some hsome]
      exact .inl (.inl rfl)
  | case5 base kind entry entries trail stack middle hsome hstop later ih =>
      rw [ih]
      refine exists_congr fun form => and_congr_left fun hform => ?_
      rw [stackGives_append, stackGives_cons, stackGives_cons, gives_cons_of_some hsome]
      have hother : form ≠ middle := by
        rintro rfl
        exact hstop hform
      tauto

end Derivation

namespace Grammar

open Orthography.Derivation

/-- The frame in which a rule with a code is applied to a stem. -/
def frameOf (code : Code) (rule : AffixRule) (stem : Text) : Frame :=
  ⟨stem, rule.kind, rule.entries, [code]⟩

/-- What is said of a code is what is said of its rule, if it names one. -/
theorem value_byCode {α : Type} (grammar : Grammar) (code : Code) (none : α)
    (result : AffixRule → Logged α) :
    (grammar.byCode code none result).value =
      match grammar.follow [] code with
      | .rule rule => (result rule).value
      | _ => none := by
  unfold byCode
  cases grammar.follow [] code <;> rfl

/-- The forms by a code are those that its rule gives, if it names one. -/
theorem mem_formsByCode {grammar : Grammar} {code : Code} {stem form : Text} :
    form ∈ (grammar.formsByCode code stem).value ↔
      ∃ rule, grammar.follow [] code = .rule rule ∧
        Gives grammar (frameOf code rule stem) form := by
  rw [formsByCode, value_byCode]
  cases hfollow : grammar.follow [] code with
  | rule rule =>
      dsimp only
      rw [Logged.value_noting, walkFrom, mem_forms_walk, stackGives_cons]
      simp [not_stackGives_nil, frameOf]
  | skip => simp
  | cycle => simp
  | unknown => simp

/-- The matching walk and the collecting walk agree: a word is derived exactly if it is among the
forms. -/
theorem derivesByCode_iff_mem_formsByCode {grammar : Grammar} {code : Code} {stem word : Text} :
    (grammar.derivesByCode code stem word).value = true ↔
      word ∈ (grammar.formsByCode code stem).value := by
  rw [mem_formsByCode, derivesByCode, value_byCode]
  cases hfollow : grammar.follow [] code with
  | rule rule =>
      dsimp only
      rw [Logged.value_noting, walkFrom, stopped_walk]
      simp [stackGives_cons, not_stackGives_nil, frameOf]
  | skip => simp
  | cycle => simp
  | unknown => simp

end Grammar

end Orthography
