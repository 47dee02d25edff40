import Mathlib.Data.List.Basic
import Mathlib.Logic.Function.Iterate
import Orthography.Proofs.Derivation

/-!
# Derivation without a stack

The forms that a rule derives are said by recursion alone (`Grammar.derived`): by each entry in turn
a form, and behind it what the rules that the entry goes on to derive from it.  A walk visits the
frames of its stack one after the other, each with all that is derived from it
(`Derivation.forms_walk`), so it lists the forms in this order.

A walk is a loop that takes one entry at a time from the topmost frame.  Every turn takes from the
steps that the stack has left (`Derivation.left_turn`) and does not change what will have been
visited in the end (`Derivation.outcome_turn`).  So the loop ends, whatever the rules go on to, and
has then visited the forms of the walk (`Derivation.exists_endsIn`).
-/

namespace Orthography

namespace Grammar

open Orthography.Derivation

/-- The forms that a rule derives from a base after a trail.  By each entry in order whose condition
admits the base these are the form that it derives and, for each code in order that the entry goes
on to, what the rule with that code derives from the form after the longer trail.  The sentinel,
codes on the trail and codes without a rule lead to nothing. -/
def derived (grammar : Grammar) (trail : List Code) (rule : AffixRule) (base : Text) : List Text :=
  rule.entries.flatMap fun entry =>
    match entry.derive? rule.kind base with
    | none => []
    | some form => form :: entry.continuation.flatMap fun code =>
      if _fresh : code ≠ Code.sentinel ∧ code ∉ trail then
        match _named : grammar.rule? code with
        | none => []
        | some next => grammar.derived (trail ++ [code]) next form
      else []
termination_by grammar.room trail
decreasing_by
  have goesOn : (code, next) ∈ grammar.continuations trail [code] :=
    mem_continuations.mpr ⟨List.mem_singleton_self code, _fresh.1, _fresh.2, _named⟩
  exact room_lt goesOn

/-- The forms that are derived from a form by the rule with one more code. -/
def derivedFurther (grammar : Grammar) (trail : List Code) (form : Text) (code : Code) :
    List Text :=
  if code ≠ Code.sentinel ∧ code ∉ trail then
    match grammar.rule? code with
    | none => []
    | some next => grammar.derived (trail ++ [code]) next form
  else []

/-- The forms that one entry derives from a base, and what is derived from these. -/
def derivedBy (grammar : Grammar) (trail : List Code) (kind : AffixKind) (base : Text)
    (entry : AffixEntry) : List Text :=
  match entry.derive? kind base with
  | none => []
  | some form => form :: entry.continuation.flatMap (grammar.derivedFurther trail form)

variable {grammar : Grammar} {trail : List Code} {code : Code} {next : AffixRule} {form base : Text}
  {kind : AffixKind} {entry : AffixEntry}

/-- A code that is followed to a rule leads to what the rule derives after the longer trail. -/
theorem derivedFurther_of_follow (hfollow : grammar.follow trail code = .rule next) :
    grammar.derivedFurther trail form code = grammar.derived (trail ++ [code]) next form := by
  obtain ⟨hsentinel, hfresh, hrule⟩ := follow_eq_rule_iff.mp hfollow
  rw [derivedFurther, if_pos ⟨hsentinel, hfresh⟩, hrule]

/-- A code that is followed to no rule leads to nothing. -/
theorem derivedFurther_eq_nil (hfollow : ∀ next, grammar.follow trail code ≠ .rule next) :
    grammar.derivedFurther trail form code = [] := by
  unfold derivedFurther
  split
  · rename_i hfresh
    cases hrule : grammar.rule? code with
    | none => rfl
    | some next =>
        exact absurd (follow_eq_rule_iff.mpr ⟨hfresh.1, hfresh.2, hrule⟩) (hfollow next)
  · rfl

theorem derivedBy_of_none (hnone : entry.derive? kind base = none) :
    grammar.derivedBy trail kind base entry = [] := by
  rw [derivedBy, hnone]

theorem derivedBy_of_some (hsome : entry.derive? kind base = some form) :
    grammar.derivedBy trail kind base entry =
      form :: entry.continuation.flatMap (grammar.derivedFurther trail form) := by
  rw [derivedBy, hsome]

/-- A rule derives what its entries derive, one after the other. -/
theorem derived_eq_flatMap (grammar : Grammar) (trail : List Code) (rule : AffixRule)
    (base : Text) :
    grammar.derived trail rule base =
      rule.entries.flatMap (grammar.derivedBy trail rule.kind base) := by
  rw [derived]
  refine List.flatMap_congr fun entry _ => ?_
  cases hderive : entry.derive? rule.kind base with
  | none => rw [derivedBy_of_none hderive]
  | some form =>
      rw [derivedBy_of_some hderive]
      refine congrArg (form :: ·) (List.flatMap_congr fun code _ => ?_)
      unfold derivedFurther
      split
      · split <;> simp [*]
      · rfl

end Grammar

namespace Derivation

/-- The forms that are derived from a frame. -/
def Frame.derived (grammar : Grammar) (frame : Frame) : List Text :=
  frame.entries.flatMap (grammar.derivedBy frame.trail frame.kind frame.base)

section Frames

variable {grammar : Grammar} {base form : Text} {kind : AffixKind} {entry : AffixEntry}
  {entries : List AffixEntry} {trail : List Code}

/-- The frames of the rules that are applied to a form stand for the codes that are followed. -/
theorem flatMap_frames (grammar : Grammar) (trail : List Code) (form : Text) (codes : List Code) :
    (frames grammar trail form codes).flatMap (Frame.derived grammar) =
      codes.flatMap (grammar.derivedFurther trail form) := by
  induction codes with
  | nil => rfl
  | cons code codes ih =>
      rw [List.flatMap_cons, ← ih]
      unfold frames Grammar.continuations
      rw [List.filterMap_cons]
      cases hfollow : grammar.follow trail code with
      | rule next =>
          rw [Grammar.derivedFurther_of_follow hfollow, Grammar.derived_eq_flatMap]
          rfl
      | skip | cycle | unknown =>
          rw [Grammar.derivedFurther_eq_nil (by simp [hfollow])]
          rfl

/-- A frame without entries derives nothing. -/
theorem Frame.derived_nil : Frame.derived grammar ⟨base, kind, [], trail⟩ = [] := rfl

/-- The entries of a frame derive one after the other. -/
theorem Frame.derived_cons :
    Frame.derived grammar ⟨base, kind, entry :: entries, trail⟩ =
      grammar.derivedBy trail kind base entry ++
        Frame.derived grammar ⟨base, kind, entries, trail⟩ :=
  List.flatMap_cons

end Frames

/-- A walk that nothing stops visits the frames of its stack one after the other, each with all that
is derived from it. -/
theorem forms_walk (grammar : Grammar) (stack : List Frame) :
    (walk grammar (fun _ => false) stack).forms = stack.flatMap (Frame.derived grammar) := by
  fun_induction walk grammar (fun _ => false) stack with
  | case1 => rfl
  | case2 base kind trail stack ih => rw [ih, List.flatMap_cons, Frame.derived_nil, List.nil_append]
  | case3 base kind entry entries trail stack hnone ih =>
      rw [ih, List.flatMap_cons, List.flatMap_cons, Frame.derived_cons,
        Grammar.derivedBy_of_none hnone, List.nil_append]
  | case4 base kind entry entries trail stack form hsome hstop => cases hstop
  | case5 base kind entry entries trail stack form hsome hgoing later ih =>
      -- The frames put on top stand for the codes that the entry goes on to, in their order.
      dsimp only
      rw [ih, List.flatMap_append, flatMap_frames, List.flatMap_cons, List.flatMap_cons,
        Frame.derived_cons, Grammar.derivedBy_of_some hsome, List.append_assoc, List.cons_append]

/-! ### The loop of a walk -/

/-- The loop of a walk between two turns: the frames that are left, the topmost first, the forms
visited so far, and whether it was stopped at the last of them. -/
structure Loop where
  stack : List Frame
  visited : List Text
  stopped : Bool

/-- The loop at the start of a walk over the forms that a rule derives from a stem. -/
def Loop.start (trail : List Code) (rule : AffixRule) (stem : Text) : Loop :=
  ⟨[⟨stem, rule.kind, rule.entries, trail⟩], [], false⟩

/-- One turn of the loop.  The topmost frame tries its next entry, or is dropped if it has none
left.  A form is visited, and unless the loop stops at it, the frames of the rules that are applied
to it go on top, the first of them topmost.  A loop that was stopped or has no frames stays as it
is. -/
def turn (grammar : Grammar) (stop : Text → Bool) : Loop → Loop
  | ⟨stack, visited, true⟩ => ⟨stack, visited, true⟩
  | ⟨[], visited, false⟩ => ⟨[], visited, false⟩
  | ⟨⟨_, _, [], _⟩ :: stack, visited, false⟩ => ⟨stack, visited, false⟩
  | ⟨⟨base, kind, entry :: entries, trail⟩ :: stack, visited, false⟩ =>
    match entry.derive? kind base with
    | none => ⟨⟨base, kind, entries, trail⟩ :: stack, visited, false⟩
    | some form =>
      if stop form then ⟨⟨base, kind, entries, trail⟩ :: stack, visited ++ [form], true⟩
      else
        ⟨frames grammar trail form entry.continuation ++ ⟨base, kind, entries, trail⟩ :: stack,
          visited ++ [form], false⟩

/-- The turns that a loop has left at most. -/
def Loop.left (grammar : Grammar) (loop : Loop) : Nat :=
  if loop.stopped then 0 else weight grammar loop.stack

/-- A loop has ended if it was stopped or has no frames left. -/
def Loop.Ended (loop : Loop) : Prop := loop.stopped = true ∨ loop.stack = []

/-- What a loop will have visited in the end, and whether it will have been stopped. -/
def Loop.outcome (grammar : Grammar) (stop : Text → Bool) (loop : Loop) : List Text × Bool :=
  if loop.stopped then (loop.visited, true)
  else
    let rest := walk grammar stop loop.stack
    (loop.visited ++ rest.forms, rest.stopped)

section Loops

variable {grammar : Grammar} {stop : Text → Bool} {loop : Loop}

/-- A loop with no turns left has ended. -/
theorem ended_of_left_eq_zero (hleft : loop.left grammar = 0) : loop.Ended := by
  obtain ⟨_ | ⟨frame, stack⟩, visited, _ | _⟩ := loop
  · exact .inr rfl
  · exact .inl rfl
  · simp only [Loop.left, Bool.false_eq_true, ↓reduceIte, weight_cons] at hleft
    rw [Grammar.weight] at hleft
    omega
  · exact .inl rfl

/-- The outcome of a loop that has ended is what it has come to. -/
theorem outcome_of_ended (hended : loop.Ended) :
    loop.outcome grammar stop = (loop.visited, loop.stopped) := by
  obtain ⟨stack, visited, _ | _⟩ := loop
  · obtain rfl : stack = [] := hended.resolve_left Bool.false_ne_true
    simp [Loop.outcome, walk]
  · rfl

/-- A turn does not change the outcome. -/
theorem outcome_turn (grammar : Grammar) (stop : Text → Bool) (loop : Loop) :
    (turn grammar stop loop).outcome grammar stop = loop.outcome grammar stop := by
  fun_cases turn grammar stop loop with
  | case1 => rfl
  | case2 => rfl
  | case3 base kind trail stack visited => simp [Loop.outcome, walk]
  | case4 base kind entry entries trail stack visited hnone =>
      simp [Loop.outcome, walk, hnone]
  | case5 base kind entry entries trail stack visited form hsome hstop =>
      simp [Loop.outcome, walk, hsome, hstop]
  | case6 base kind entry entries trail stack visited form hsome hgoing =>
      simp [Loop.outcome, walk, hsome, hgoing]

/-- A turn takes from the turns left, until there are none. -/
theorem left_turn (grammar : Grammar) (stop : Text → Bool) (loop : Loop) :
    (turn grammar stop loop).left grammar ≤ loop.left grammar - 1 := by
  fun_cases turn grammar stop loop with
  | case1 => simp [Loop.left]
  | case2 => simp [Loop.left, weight, total]
  | case3 base kind trail stack visited =>
      simp only [Loop.left, Bool.false_eq_true, ↓reduceIte, weight_cons]
      rw [Grammar.weight]
      omega
  | case4 base kind entry entries trail stack visited hnone =>
      simp only [Loop.left, Bool.false_eq_true, ↓reduceIte, weight_cons]
      rw [weight_entry grammar trail entry entries []]
      omega
  | case5 => simp [Loop.left]
  | case6 base kind entry entries trail stack visited form hsome hgoing =>
      simp only [Loop.left, Bool.false_eq_true, ↓reduceIte, weight_append, weight_cons]
      rw [weight_entry grammar trail entry entries form]
      omega

/-- After as many turns as are left, none is left, and the outcome is that of the start. -/
theorem iterate_turn (grammar : Grammar) (stop : Text → Bool) {loop : Loop} {turns : Nat}
    (hturns : loop.left grammar ≤ turns) :
    ((turn grammar stop)^[turns] loop).left grammar = 0 ∧
      ((turn grammar stop)^[turns] loop).outcome grammar stop = loop.outcome grammar stop := by
  -- The outcome is that of every later state, so the induction may start from the next one.
  induction turns generalizing loop with
  | zero => exact ⟨Nat.le_zero.mp hturns, rfl⟩
  | succ turns ih =>
      have hleft : (turn grammar stop loop).left grammar ≤ turns := by
        have hstep := left_turn grammar stop loop
        omega
      rw [Function.iterate_succ_apply, ← outcome_turn grammar stop loop]
      exact ih hleft

/-- Some turns lead from one state of the loop to another, in which it has ended. -/
def EndsIn (grammar : Grammar) (stop : Text → Bool) (loop last : Loop) : Prop :=
  (∃ turns, (turn grammar stop)^[turns] loop = last) ∧ last.Ended

/-- The loop of every walk comes to an end.  It has then visited the forms of the walk, and was
stopped if the walk was. -/
theorem exists_endsIn (grammar : Grammar) (stop : Text → Bool) (stack : List Frame) :
    ∃ last, EndsIn grammar stop ⟨stack, [], false⟩ last ∧
      last.visited = (walk grammar stop stack).forms ∧
      last.stopped = (walk grammar stop stack).stopped := by
  let start : Loop := ⟨stack, [], false⟩
  have hturns : start.left grammar ≤ weight grammar stack := by simp [start, Loop.left]
  obtain ⟨hleft, houtcome⟩ := iterate_turn grammar stop hturns
  have hended := ended_of_left_eq_zero hleft
  have hstart : start.outcome grammar stop =
      ((walk grammar stop stack).forms, (walk grammar stop stack).stopped) := by
    simp [start, Loop.outcome]
  rw [outcome_of_ended hended, hstart, Prod.mk.injEq] at houtcome
  exact ⟨_, ⟨⟨_, rfl⟩, hended⟩, houtcome⟩

end Loops

/-- The loop of a walk that nothing stops ends without frames, and has then visited what is derived
from the frames of the walk. -/
theorem endsIn_derived (grammar : Grammar) (stack : List Frame) :
    EndsIn grammar (fun _ => false) ⟨stack, [], false⟩
      ⟨[], stack.flatMap (Frame.derived grammar), false⟩ := by
  obtain ⟨⟨left, visited, stopped⟩, hends, hvisited, hstopped⟩ :=
    exists_endsIn grammar (fun _ => false) stack
  have hnever : (walk grammar (fun _ => false) stack).stopped = false := by
    rw [← Bool.not_eq_true, stopped_walk]
    rintro ⟨_, -, hstop⟩
    cases hstop
  obtain rfl : stopped = false := hstopped.trans hnever
  obtain rfl : left = [] := hends.2.resolve_left Bool.false_ne_true
  obtain rfl : visited = stack.flatMap (Frame.derived grammar) :=
    hvisited.trans (forms_walk grammar stack)
  exact hends

end Derivation

namespace Grammar

open Orthography.Derivation

variable {grammar : Grammar} {code : Code} {rule : AffixRule}

/-- The walk over the forms of a rule is the recursive derivation, and its loop ends with it. -/
theorem forms_walkFrom (grammar : Grammar) (trail : List Code) (rule : AffixRule) (stem : Text) :
    (grammar.walkFrom (fun _ => false) trail rule stem).forms =
      grammar.derived trail rule stem := by
  rw [walkFrom, forms_walk, List.flatMap_singleton, derived_eq_flatMap]
  rfl

/-- By rule, the forms are what the rule derives after no codes. -/
theorem value_formsByRule (grammar : Grammar) (rule : AffixRule) (stem : Text) :
    (grammar.formsByRule rule stem).value = grammar.derived [] rule stem := by
  rw [formsByRule, Logged.value_noting, forms_walkFrom]

/-- By code, the forms are what the rule with the code derives after it. -/
theorem value_formsByCode (hcode : code ≠ Code.sentinel) (hrule : grammar.rule? code = some rule)
    (stem : Text) : (grammar.formsByCode code stem).value = grammar.derived [code] rule stem := by
  have hfollow : grammar.follow [] code = .rule rule :=
    follow_eq_rule_iff.mpr ⟨hcode, List.not_mem_nil, hrule⟩
  rw [formsByCode, value_byCode, hfollow]
  exact forms_walkFrom grammar [code] rule stem

/-- The loop of a walk over the forms of a rule ends with what the rule derives. -/
theorem endsIn_derived_of_rule (grammar : Grammar) (trail : List Code) (rule : AffixRule)
    (stem : Text) :
    EndsIn grammar (fun _ => false) (.start trail rule stem)
      ⟨[], grammar.derived trail rule stem, false⟩ := by
  have hends := endsIn_derived grammar [⟨stem, rule.kind, rule.entries, trail⟩]
  rw [List.flatMap_singleton] at hends
  rwa [derived_eq_flatMap]

/-- The stack and the recursion agree for every grammar, also where rules go on to one another in a
circle.  By a code that names a rule the loop comes to an end, and the forms that it has then
visited and that are listed are those that the rule derives after the code; by a rule they are those
that it derives after no codes. -/
theorem forms_eq_derived (grammar : Grammar) (stem : Text) :
    (∀ code rule, code ≠ Code.sentinel → grammar.rule? code = some rule →
      EndsIn grammar (fun _ => false) (.start [code] rule stem)
          ⟨[], grammar.derived [code] rule stem, false⟩ ∧
        (grammar.formsByCode code stem).value = grammar.derived [code] rule stem) ∧
      ∀ rule,
        EndsIn grammar (fun _ => false) (.start [] rule stem)
            ⟨[], grammar.derived [] rule stem, false⟩ ∧
          (grammar.formsByRule rule stem).value = grammar.derived [] rule stem := by
  constructor
  · intro code rule hcode hrule
    exact ⟨endsIn_derived_of_rule grammar [code] rule stem, value_formsByCode hcode hrule stem⟩
  · intro rule
    exact ⟨endsIn_derived_of_rule grammar [] rule stem, value_formsByRule grammar rule stem⟩

/-- Two rules that go on to each other: the loop ends, though each entry goes on. -/
theorem forms_eq_derived_circular :
    ∃ (grammar : Grammar) (rule : AffixRule), ['X', '1'] ≠ Code.sentinel ∧
      grammar.rule? ['X', '1'] = some rule ∧
      grammar.derived [['X', '1']] rule "z".toList = ["za".toList, "zab".toList] ∧
      EndsIn grammar (fun _ => false) (.start [['X', '1']] rule "z".toList)
        ⟨[], ["za".toList, "zab".toList], false⟩ ∧
      (grammar.formsByCode ['X', '1'] "z".toList).value = ["za".toList, "zab".toList] := by
  let affix := "SFX X1 Y 1\nSFX X1 0 a/X2 .\nSFX X2 Y 1\nSFX X2 0 b/X1 .\n".toList
  let grammar := (Grammar.read affix).value.toOption.getD .empty
  have hcode : ['X', '1'] ≠ Code.sentinel := by decide
  obtain ⟨rule, hrule⟩ : ∃ rule, grammar.rule? ['X', '1'] = some rule :=
    Option.isSome_iff_exists.mp (by decide +kernel)
  have hforms : (grammar.formsByCode ['X', '1'] "z".toList).value =
      ["za".toList, "zab".toList] := by decide +kernel
  obtain ⟨hends, hderived⟩ := (forms_eq_derived grammar "z".toList).1 _ rule hcode hrule
  rw [hforms] at hderived
  rw [← hderived] at hends
  exact ⟨grammar, rule, hcode, hrule, hderived.symm, hends, hforms⟩

end Grammar

end Orthography
