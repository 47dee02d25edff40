import Orthography.Affix.Grammar

/-!
# Derivation

A rule derives forms from a stem, and each form goes on to the rules that its entry names.  A trail
of codes says which rules led to a form; a rule whose code is on the trail is not applied again, so
derivation ends (`Grammar.weight` bounds it).

Forms are visited depth first: a form, then all that comes from it by its first continuation, then
by the next.  What is left to do stands on a stack of frames.
-/

namespace Orthography

namespace Derivation

/-- The sum of some numbers of steps. -/
def total : List Nat → Nat
  | [] => 0
  | steps :: rest => steps + total rest

theorem total_append (a b : List Nat) : total (a ++ b) = total a + total b := by
  induction a with
  | nil => simp [total]
  | cons steps rest ih => simp only [List.cons_append, total, ih, Nat.add_assoc]

end Derivation

namespace Grammar

open Orthography.Derivation

/-- What happens at one code of a continuation. -/
inductive Follow where
  /-- The code names no rule on purpose. -/
  | skip
  /-- The code is on the trail already. -/
  | cycle
  /-- No rule has the code. -/
  | unknown
  | rule (rule : AffixRule)
  deriving DecidableEq

/-- What happens at a code after a trail. -/
def follow (grammar : Grammar) (trail : List Code) (code : Code) : Follow :=
  if code = Code.sentinel then .skip
  else if code ∈ trail then .cycle
  else match grammar.rule? code with
    | none => .unknown
    | some rule => .rule rule

/-- A rule is applied if its code is not the sentinel, not on the trail, and names it. -/
theorem follow_eq_rule_iff {grammar : Grammar} {trail : List Code} {code : Code}
    {rule : AffixRule} : grammar.follow trail code = .rule rule ↔
      code ≠ Code.sentinel ∧ code ∉ trail ∧ grammar.rule? code = some rule := by
  unfold follow
  by_cases marks : code = Code.sentinel
  · simp [marks]
  · by_cases on : code ∈ trail
    · simp [marks, on]
    · cases found : grammar.rule? code <;> simp [marks, on]

/-- The rules that are applied to a form after a trail, with their codes. -/
def continuations (grammar : Grammar) (trail : List Code) (codes : List Code) :
    List (Code × AffixRule) :=
  codes.filterMap fun code =>
    match grammar.follow trail code with
    | .rule rule => some (code, rule)
    | _ => none

/-- The continuations are the codes listed that are not the sentinel, not on the trail, and names of
rules. -/
theorem mem_continuations {grammar : Grammar} {trail codes : List Code} {code : Code}
    {rule : AffixRule} : (code, rule) ∈ grammar.continuations trail codes ↔
      code ∈ codes ∧ code ≠ Code.sentinel ∧ code ∉ trail ∧ grammar.rule? code = some rule := by
  rw [← follow_eq_rule_iff, continuations, List.mem_filterMap]
  constructor
  · rintro ⟨other, listed, found⟩
    split at found
    · cases found
      exact ⟨listed, by assumption⟩
    · cases found
  · rintro ⟨listed, found⟩
    exact ⟨code, listed, by rw [found]⟩

/-- The number of codes of rules that are not on a trail. -/
def room (grammar : Grammar) (trail : List Code) : Nat :=
  (grammar.rules.keys.filter (· ∉ trail)).length

/-- Every rule that is applied makes the trail longer by a code that was not on it. -/
theorem room_lt {grammar : Grammar} {trail codes : List Code} {next : Code × AffixRule}
    (h : next ∈ grammar.continuations trail codes) :
    grammar.room (trail ++ [next.1]) < grammar.room trail := by
  obtain ⟨code, rule⟩ := next
  obtain ⟨-, -, fresh, named⟩ := mem_continuations.1 h
  have held : code ∈ grammar.rules.keys := Table.mem_keys_iff.2 (Option.isSome_of_eq_some named)
  have split : grammar.rules.keys.filter (· ∉ trail ++ [code]) =
      (grammar.rules.keys.filter (· ∉ trail)).filter (· ≠ code) := by
    rw [List.filter_filter]
    congr 1
    funext other
    simp [Bool.and_comm]
  simp only [room, split]
  exact List.length_filter_lt_length_iff_exists.2
    ⟨code, List.mem_filter.2 ⟨held, by simpa using fresh⟩, by simp⟩

/-- The steps that deriving by some entries after a trail can take, were every condition to hold. -/
def weight (grammar : Grammar) (trail : List Code) (entries : List AffixEntry) : Nat :=
  1 + total (entries.map fun entry =>
    1 + total ((grammar.continuations trail entry.continuation).attach.map fun next =>
      grammar.weight (trail ++ [next.1.1]) next.1.2.entries))
termination_by grammar.room trail
decreasing_by exact room_lt next.2

end Grammar

namespace Derivation

/-- Entries that are still to be tried on a form, and the trail of codes that led to it. -/
structure Frame where
  base : Text
  kind : AffixKind
  entries : List AffixEntry
  trail : List Code

/-- What a walk has visited, the records it made, and whether it was stopped at a form. -/
structure Walk where
  forms : List Text
  records : List Record
  stopped : Bool

/-- The record of a code that no rule has. -/
def unknownCode (code : Code) : Record := ⟨.trace, s!"unknown rule code `{code.string}`"⟩

/-- The records made at a form before its continuations are taken up. -/
def records (grammar : Grammar) (trail : List Code) (form : Text) (codes : List Code) :
    List Record :=
  codes.filterMap fun code =>
    match grammar.follow trail code with
    | .cycle => some ⟨.trace,
        s!"continuation cycle through `{code.string}` from `{form.string}`, branch dropped"⟩
    | .unknown => some (unknownCode code)
    | _ => none

/-- The frames of the rules that are applied to a form. -/
def frames (grammar : Grammar) (trail : List Code) (form : Text) (codes : List Code) :
    List Frame :=
  (grammar.continuations trail codes).map fun (code, rule) =>
    ⟨form, rule.kind, rule.entries, trail ++ [code]⟩

/-- The steps that a stack of frames can take. -/
def weight (grammar : Grammar) (stack : List Frame) : Nat :=
  total (stack.map fun frame => grammar.weight frame.trail frame.entries)

theorem weight_append (grammar : Grammar) (a b : List Frame) :
    weight grammar (a ++ b) = weight grammar a + weight grammar b := by
  simp [weight, total_append]

theorem weight_cons (grammar : Grammar) (frame : Frame) (stack : List Frame) :
    weight grammar (frame :: stack) =
      grammar.weight frame.trail frame.entries + weight grammar stack := rfl

theorem weight_frames (grammar : Grammar) (trail : List Code) (form : Text) (codes : List Code) :
    weight grammar (frames grammar trail form codes) =
      total ((grammar.continuations trail codes).map fun next =>
        grammar.weight (trail ++ [next.1]) next.2.entries) := by
  simp [weight, frames, Function.comp_def]

theorem weight_entry (grammar : Grammar) (trail : List Code) (entry : AffixEntry)
    (entries : List AffixEntry) (form : Text) :
    grammar.weight trail (entry :: entries) =
      1 + weight grammar (frames grammar trail form entry.continuation) +
        grammar.weight trail entries := by
  rw [Grammar.weight, Grammar.weight, weight_frames]
  simp only [List.map_cons, total, List.map_subtype, List.unattach_attach]
  omega

/-- Visits forms depth first until one of them is a form to stop at. -/
def walk (grammar : Grammar) (stop : Text → Bool) : List Frame → Walk
  | [] => ⟨[], [], false⟩
  | ⟨_, _, [], _⟩ :: stack => walk grammar stop stack
  | ⟨base, kind, entry :: entries, trail⟩ :: stack =>
    match entry.derive? kind base with
    | none => walk grammar stop (⟨base, kind, entries, trail⟩ :: stack)
    | some form =>
      if stop form then ⟨[form], [], true⟩
      else
        let later := walk grammar stop
          (frames grammar trail form entry.continuation ++ ⟨base, kind, entries, trail⟩ :: stack)
        ⟨form :: later.forms,
          records grammar trail form entry.continuation ++ later.records, later.stopped⟩
termination_by stack => weight grammar stack
decreasing_by
  · rw [weight_cons, Grammar.weight]
    omega
  · rw [weight_cons, weight_cons, weight_entry grammar trail entry entries []]
    dsimp only
    omega
  · rw [weight_append, weight_cons, weight_cons, weight_entry grammar trail entry entries form]
    dsimp only
    omega

end Derivation

namespace Grammar

open Orthography.Derivation

/-- Walks the forms that a rule derives from a stem after a trail. -/
def walkFrom (grammar : Grammar) (stop : Text → Bool) (trail : List Code) (rule : AffixRule)
    (stem : Text) : Walk :=
  walk grammar stop [⟨stem, rule.kind, rule.entries, trail⟩]

/-- Every form that a rule derives from a stem. -/
def formsByRule (grammar : Grammar) (rule : AffixRule) (stem : Text) : Logged (List Text) :=
  let walk := grammar.walkFrom (fun _ => false) [] rule stem
  .noting walk.records walk.forms

/-- Whether a rule derives a word from a stem. -/
def derivesByRule (grammar : Grammar) (rule : AffixRule) (stem word : Text) : Logged Bool :=
  let walk := grammar.walkFrom (· == word) [] rule stem
  .noting walk.records walk.stopped

/-- What a walk from the rule with a code says; the sentinel and codes without a rule say `none`,
and a code without a rule is noted. -/
def byCode {α : Type} (grammar : Grammar) (code : Code) (none : α)
    (result : AffixRule → Logged α) : Logged α :=
  match grammar.follow [] code with
  | .rule rule => result rule
  | .unknown => .noting [unknownCode code] none
  | .skip | .cycle => pure none

/-- Every form that the rule with a code derives from a stem. -/
def formsByCode (grammar : Grammar) (code : Code) (stem : Text) : Logged (List Text) :=
  grammar.byCode code [] fun rule =>
    let walk := grammar.walkFrom (fun _ => false) [code] rule stem
    .noting walk.records walk.forms

/-- Whether the rule with a code derives a word from a stem. -/
def derivesByCode (grammar : Grammar) (code : Code) (stem word : Text) : Logged Bool :=
  grammar.byCode code false fun rule =>
    let walk := grammar.walkFrom (· == word) [code] rule stem
    .noting walk.records walk.stopped

end Grammar

end Orthography
