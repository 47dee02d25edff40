import Orthography.Derivation

/-!
# The reach of rules

How much of a stem the forms of a rule can have lost at each end, and whether anything can stand in
front of it.  What is left of a stem after the greatest losses, its root, occurs in every form, so
most stems need not be derived from to tell that they do not give a word.
-/

namespace Orthography

/-- A bound on what derivation can do to a stem. -/
structure Reach where
  /-- How many characters can be lost at the start. -/
  leading : Nat
  /-- How many characters can be lost at the end. -/
  trailing : Nat
  /-- Whether text can be put in front. -/
  prepends : Bool
  deriving DecidableEq, Repr

namespace Reach

/-- The bound for leaving a stem as it is. -/
def none : Reach := ⟨0, 0, false⟩

/-- The bound for either of two derivations. -/
def merge (a b : Reach) : Reach :=
  ⟨max a.leading b.leading, max a.trailing b.trailing, a.prepends || b.prepends⟩

/-- The bound for one derivation after the other. -/
def add (a b : Reach) : Reach :=
  ⟨addBounds a.leading b.leading, addBounds a.trailing b.trailing, a.prepends || b.prepends⟩

/-- The part of a stem that every derivation within a bound keeps: nothing, if the losses at both
ends together may be as long as the stem or are not limited. -/
def root (reach : Reach) (stem : Text) : Text :=
  let losses := addBounds reach.leading reach.trailing
  if losses = unlimited || stem.length ≤ losses then []
  else (stem.drop reach.leading).take (stem.length - losses)

/-- The bound for one rule: the greatest loss by any of its entries. -/
def ofRule (rule : AffixRule) : Reach :=
  let loss := (rule.entries.filterMap fun entry => entry.remove.map (·.reach)).foldl max 0
  match rule.kind with
  | .leading => ⟨loss, 0, true⟩
  | .trailing => ⟨0, loss, false⟩

end Reach

namespace Grammar

/-- The codes that the entries of a rule go on to. -/
def successors (rule : AffixRule) : List Code := rule.entries.flatMap (·.continuation)

/-- The rules that can be met from some codes on, each once, after those already met. -/
def meet (grammar : Grammar) (met : List (Code × AffixRule)) :
    (pending : List Code) → List (Code × AffixRule)
  | [] => met
  | code :: pending =>
    match _follows : grammar.follow (met.map (·.1)) code with
    | .rule rule => meet grammar ((code, rule) :: met) (successors rule ++ pending)
    | _ => meet grammar met pending
termination_by pending => (grammar.room (met.map (·.1)), pending.length)
decreasing_by
  · have goesOn : (code, rule) ∈ grammar.continuations (met.map (·.1)) [code] :=
      mem_continuations.2 ⟨List.mem_singleton.2 rfl, follow_eq_rule_iff.1 _follows⟩
    have step := room_lt goesOn
    refine Prod.Lex.left _ _ ?_
    have same : grammar.room (((code, rule) :: met).map (·.1)) =
        grammar.room (met.map (·.1) ++ [code]) := by
      unfold room
      congr 2
      funext other
      simp only [List.map_cons, List.mem_cons, List.mem_append, not_or, decide_eq_decide,
        List.not_mem_nil, or_false]
      exact And.comm
    rw [same]
    exact step
  · exact Prod.Lex.right _ (by simp)

/-- The bound for all that a rule can lead to: a derivation applies each rule at most once. -/
def reachOfCode (grammar : Grammar) (code : Code) : Reach :=
  (grammar.meet [] [code]).foldl (fun reach next => reach.add (.ofRule next.2)) .none

/-- The bounds of all rules. -/
def reachTable (grammar : Grammar) : Table Reach :=
  grammar.rules.map fun code _ => grammar.reachOfCode code

/-- The bound for any of several codes, of those that the table has. -/
def reachIn (table : Table Reach) (codes : List Code) : Reach :=
  (codes.filterMap table.get?).foldl Reach.merge .none

end Grammar

end Orthography
