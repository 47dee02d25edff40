import Mathlib.Algebra.BigOperators.Group.Finset.Basic
import Mathlib.Data.Multiset.AddSub
import Mathlib.Data.Set.Lattice
import Mathlib.Logic.Relation
import Orthography.Reach

/-!
# Collecting rules from pending codes

The rules that a code can lead to are collected from a worklist of codes.  A turn takes up any code
that is pending: what comes next is not fixed here, so what holds of all runs holds whatever the
order in which codes are taken up and put back, and of `Grammar.meet` (`Worklist.turns_meet`).

Every turn takes one from a number that the worklist and the rules not yet collected determine
(`Worklist.Turn.left_add_one`), so no run goes on for ever.  A run from one code that cannot go on
has collected the rule of each code of the least closed set once, and no others
(`Worklist.Explores.isLeast`).
-/

namespace Orthography

namespace Grammar

/-- A code leads to a rule if it names one and is not the sentinel. -/
def Applies (grammar : Grammar) (code : Code) : Prop :=
  code ≠ Code.sentinel ∧ (grammar.rule? code).isSome = true

/-- A set of codes is closed from a code on.  It has that code, unless it is the sentinel, and with
each code of a rule the codes that lead to rules among those that the entries of the rule go on
to. -/
structure ClosedFrom (grammar : Grammar) (start : Code) (codes : Set Code) : Prop where
  starts : start ≠ Code.sentinel → start ∈ codes
  goesOn : ∀ code ∈ codes, ∀ rule, grammar.rule? code = some rule →
    ∀ next ∈ successors rule, grammar.Applies next → next ∈ codes

/-- The number of codes that the entries of the rule with a code go on to. -/
def branching (grammar : Grammar) (code : Code) : Nat :=
  ((grammar.rule? code).map fun rule => (successors rule).length).getD 0

variable {grammar : Grammar} {trail : List Code} {code : Code}

/-- A code that leads to a rule and is passed over is on the trail. -/
theorem mem_of_not_follow (hfollow : ∀ rule, grammar.follow trail code ≠ .rule rule)
    (happlies : grammar.Applies code) : code ∈ trail := by
  obtain ⟨hsentinel, hnamed⟩ := happlies
  obtain ⟨rule, hrule⟩ := Option.isSome_iff_exists.mp hnamed
  by_contra hfresh
  exact hfollow rule (follow_eq_rule_iff.mpr ⟨hsentinel, hfresh, hrule⟩)

end Grammar

open Grammar

/-- What has been collected between two turns: rules with their codes, and the codes that are still
pending, which may repeat. -/
structure Worklist where
  met : List (Code × AffixRule)
  pending : Multiset Code

namespace Worklist

/-- The worklist at the start from a code. -/
def start (code : Code) : Worklist := ⟨[], {code}⟩

/-- The codes of the rules collected. -/
def codes (worklist : Worklist) : List Code := worklist.met.map (·.1)

/-- One turn takes up a pending code.  If it leads to a rule that is not collected yet, the rule is
collected and the codes that it goes on to become pending; otherwise it is passed over. -/
inductive Turn (grammar : Grammar) : Worklist → Worklist → Prop
  | collect {met : List (Code × AffixRule)} {pending : Multiset Code} {code : Code}
      {rule : AffixRule} (hfollow : grammar.follow (met.map (·.1)) code = .rule rule) :
      Turn grammar ⟨met, code ::ₘ pending⟩ ⟨(code, rule) :: met, ↑(successors rule) + pending⟩
  | pass {met : List (Code × AffixRule)} {pending : Multiset Code} {code : Code}
      (hfollow : ∀ rule, grammar.follow (met.map (·.1)) code ≠ .rule rule) :
      Turn grammar ⟨met, code ::ₘ pending⟩ ⟨met, pending⟩

/-- A worklist has ended if no turn can be made. -/
def Ended (grammar : Grammar) (worklist : Worklist) : Prop :=
  ∀ after, ¬ Turn grammar worklist after

variable {grammar : Grammar} {code first : Code} {worklist before after : Worklist}

/-- A worklist has ended exactly if no code is pending. -/
theorem ended_iff : worklist.Ended grammar ↔ worklist.pending = 0 := by
  obtain ⟨met, pending⟩ := worklist
  constructor
  · intro hended
    induction pending using Multiset.induction_on with
    | empty => rfl
    | cons code pending =>
      cases hfollow : grammar.follow (met.map (·.1)) code with
      | rule rule => exact absurd (Turn.collect hfollow) (hended _)
      | skip | cycle | unknown => exact absurd (Turn.pass (by simp [hfollow])) (hended _)
  · rintro rfl after hturn
    generalize hbefore : Worklist.mk met 0 = before at hturn
    cases hturn <;> simp at hbefore

/-! ### The loop ends -/

/-- The turns that a worklist can still take: one for each pending code, and one for each code that
a rule not yet collected can still put there. -/
def left (grammar : Grammar) (worklist : Worklist) : Nat :=
  worklist.pending.card +
    ∑ code ∈ grammar.rules.keys.toFinset \ worklist.codes.toFinset, grammar.branching code

/-- Every turn takes one from the turns left. -/
theorem Turn.left_add_one (hturn : Turn grammar before after) :
    after.left grammar + 1 = before.left grammar := by
  cases hturn with
  | pass hfollow =>
    simp only [left, codes, Multiset.card_cons]
    omega
  | @collect met pending code rule hfollow =>
    obtain ⟨-, hfresh, hrule⟩ := follow_eq_rule_iff.mp hfollow
    have hopen : code ∈ grammar.rules.keys.toFinset \ (met.map (·.1)).toFinset := by
      rw [Finset.mem_sdiff, List.mem_toFinset, List.mem_toFinset]
      exact ⟨Table.mem_keys_iff.mpr (Option.isSome_of_eq_some hrule), hfresh⟩
    have hbranching : grammar.branching code = (successors rule).length := by
      simp [branching, hrule]
    have hsplit :
        ∑ other ∈ grammar.rules.keys.toFinset \ (code :: met.map (·.1)).toFinset,
            grammar.branching other + grammar.branching code =
          ∑ other ∈ grammar.rules.keys.toFinset \ (met.map (·.1)).toFinset,
            grammar.branching other := by
      rw [List.toFinset_cons, Finset.sdiff_insert, Finset.sum_erase_add _ _ hopen]
    simp only [left, codes, List.map_cons, Multiset.card_add, Multiset.coe_card,
      Multiset.card_cons]
    omega

/-- No run goes on for ever, from whichever worklist it starts. -/
theorem acc_turn (grammar : Grammar) (worklist : Worklist) :
    Acc (fun after before => Turn grammar before after) worklist := by
  have hsub : Subrelation (fun after before => Turn grammar before after)
      (InvImage (· < ·) (left grammar)) := by
    intro after before hturn
    have hleft := hturn.left_add_one
    simp only [InvImage]
    omega
  exact hsub.wf (InvImage.wf _ Nat.lt_wfRel.wf) |>.apply worklist

/-! ### What is collected -/

/-- A code is known if its rule is collected or it is pending. -/
def Knows (worklist : Worklist) (code : Code) : Prop :=
  code ∈ worklist.codes ∨ code ∈ worklist.pending

/-- What holds between the turns of a run from a code. -/
structure Explores (grammar : Grammar) (first : Code) (worklist : Worklist) : Prop where
  /-- All collected rules are those that their codes lead to. -/
  named : ∀ next ∈ worklist.met, next.1 ≠ Code.sentinel ∧ grammar.rule? next.1 = some next.2
  /-- No rule is collected twice. -/
  once : worklist.codes.Nodup
  starts : grammar.Applies first → worklist.Knows first
  /-- What collected rules go on to is known. -/
  goesOn : ∀ next ∈ worklist.met, ∀ further ∈ successors next.2, grammar.Applies further →
    worklist.Knows further
  /-- No more is known than a closed set has. -/
  within : ∀ closure, grammar.ClosedFrom first closure →
    ∀ code, worklist.Knows code → grammar.Applies code → code ∈ closure

/-- A known code that leads to a rule stays known. -/
theorem Turn.knows (hturn : Turn grammar before after) (happlies : grammar.Applies code)
    (hknows : before.Knows code) : after.Knows code := by
  cases hturn with
  | @collect met pending taken rule hfollow =>
    rcases hknows with hmet | hpending
    · exact .inl (List.mem_cons_of_mem _ hmet)
    · rcases Multiset.mem_cons.mp hpending with rfl | hpending
      · exact .inl List.mem_cons_self
      · exact .inr (Multiset.mem_add.mpr (.inr hpending))
  | @pass met pending taken hfollow =>
    rcases hknows with hmet | hpending
    · exact .inl hmet
    · rcases Multiset.mem_cons.mp hpending with rfl | hpending
      · exact .inl (mem_of_not_follow hfollow happlies)
      · exact .inr hpending

/-- What is known after a turn was known before, or a rule goes on to it whose code was. -/
theorem Turn.known_before (hturn : Turn grammar before after) (hknows : after.Knows code) :
    before.Knows code ∨ ∃ taken rule, before.Knows taken ∧ grammar.Applies taken ∧
      grammar.rule? taken = some rule ∧ code ∈ successors rule := by
  cases hturn with
  | @collect met pending taken rule hfollow =>
    obtain ⟨hsentinel, -, hrule⟩ := follow_eq_rule_iff.mp hfollow
    have htaken : Knows ⟨met, taken ::ₘ pending⟩ taken := .inr (Multiset.mem_cons_self _ _)
    rcases hknows with hmet | hpending
    · rcases List.mem_cons.mp hmet with rfl | hmet
      · exact .inl htaken
      · exact .inl (.inl hmet)
    · rcases Multiset.mem_add.mp hpending with hsuccessor | hpending
      · exact .inr ⟨taken, rule, htaken, ⟨hsentinel, Option.isSome_of_eq_some hrule⟩, hrule,
          hsuccessor⟩
      · exact .inl (.inr (Multiset.mem_cons_of_mem hpending))
  | pass => exact .inl (hknows.imp id Multiset.mem_cons_of_mem)

/-- At the start only the code itself is known. -/
theorem explores_start (grammar : Grammar) (first : Code) :
    (start first).Explores grammar first where
  named := fun next hnext => by cases hnext
  once := List.nodup_nil
  starts := fun _ => .inr (Multiset.mem_singleton_self first)
  goesOn := fun next hnext => by cases hnext
  within := by
    intro closure hclosed code hknows happlies
    rcases hknows with hmet | hpending
    · cases hmet
    · obtain rfl := Multiset.mem_singleton.mp hpending
      exact hclosed.starts happlies.1

/-- A turn keeps what holds between turns. -/
theorem Explores.turn (hexplores : before.Explores grammar first)
    (hturn : Turn grammar before after) : after.Explores grammar first := by
  have hstarts (hfirst : grammar.Applies first) : after.Knows first :=
    hturn.knows hfirst (hexplores.starts hfirst)
  have hgoesOn : ∀ next ∈ before.met, ∀ further ∈ successors next.2, grammar.Applies further →
      after.Knows further := by
    intro next hnext further hfurther happlies
    exact hturn.knows happlies (hexplores.goesOn next hnext further hfurther happlies)
  have hwithin : ∀ closure, grammar.ClosedFrom first closure →
      ∀ code, after.Knows code → grammar.Applies code → code ∈ closure := by
    intro closure hclosed code hknows happlies
    rcases hturn.known_before hknows with hbefore | ⟨taken, rule, htaken, hleads, hrule, hcode⟩
    · exact hexplores.within closure hclosed code hbefore happlies
    · have hinside : taken ∈ closure := hexplores.within closure hclosed taken htaken hleads
      exact hclosed.goesOn taken hinside rule hrule code hcode happlies
  cases hturn with
  | @collect met pending taken rule hfollow =>
    obtain ⟨hsentinel, hfresh, hrule⟩ := follow_eq_rule_iff.mp hfollow
    exact
      { named := List.forall_mem_cons.mpr ⟨⟨hsentinel, hrule⟩, hexplores.named⟩
        once := List.nodup_cons.mpr ⟨hfresh, hexplores.once⟩
        starts := hstarts
        goesOn := List.forall_mem_cons.mpr
          ⟨fun _ hfurther _ => .inr (Multiset.mem_add.mpr (.inl hfurther)), hgoesOn⟩
        within := hwithin }
  | pass => exact ⟨hexplores.named, hexplores.once, hstarts, hgoesOn, hwithin⟩

/-- What holds between turns holds all along a run. -/
theorem explores_of_turns
    (hturns : Relation.ReflTransGen (Turn grammar) (start first) worklist) :
    worklist.Explores grammar first := by
  induction hturns with
  | refl => exact explores_start grammar first
  | tail _ hturn ih => exact ih.turn hturn

/-- Under the code of a collected rule that rule is collected. -/
theorem Explores.mem_met {rule : AffixRule} (hexplores : worklist.Explores grammar first)
    (hcode : code ∈ worklist.codes) (hrule : grammar.rule? code = some rule) :
    (code, rule) ∈ worklist.met := by
  obtain ⟨⟨held, found⟩, hnext, rfl⟩ := List.mem_map.mp hcode
  have hfound := (hexplores.named _ hnext).2
  rw [hrule] at hfound
  cases hfound
  exact hnext

/-- In the end everything known is collected. -/
theorem Knows.mem_codes (hended : worklist.pending = 0) (hknows : worklist.Knows code) :
    code ∈ worklist.codes := by
  rcases hknows with hmet | hpending
  · exact hmet
  · rw [hended] at hpending
    exact absurd hpending (Multiset.notMem_zero code)

/-- The codes collected in the end from the code of a rule are the least closed set. -/
theorem Explores.isLeast (hexplores : worklist.Explores grammar first)
    (hfirst : (grammar.rule? first).isSome = true) (hended : worklist.pending = 0) :
    IsLeast {codes : Set Code | grammar.ClosedFrom first codes} ↑worklist.codes.toFinset := by
  constructor
  · constructor
    case starts =>
      intro hsentinel
      exact List.mem_toFinset.mpr ((hexplores.starts ⟨hsentinel, hfirst⟩).mem_codes hended)
    case goesOn =>
      intro code hcode rule hrule next hnext happlies
      have hmet : (code, rule) ∈ worklist.met :=
        hexplores.mem_met (List.mem_toFinset.mp hcode) hrule
      have hknows := hexplores.goesOn _ hmet next hnext happlies
      exact List.mem_toFinset.mpr (hknows.mem_codes hended)
  · intro closure hclosed code hcode
    have hcollected := List.mem_toFinset.mp hcode
    obtain ⟨next, hnext, rfl⟩ := List.mem_map.mp hcollected
    obtain ⟨hsentinel, hrule⟩ := hexplores.named next hnext
    exact hexplores.within closure hclosed _ (.inl hcollected)
      ⟨hsentinel, Option.isSome_of_eq_some hrule⟩

/-- The rules that a grammar collects are collected by a run that takes up each code from the front
of a list. -/
theorem turns_meet (grammar : Grammar) (met : List (Code × AffixRule)) (pending : List Code) :
    Relation.ReflTransGen (Turn grammar) ⟨met, pending⟩ ⟨grammar.meet met pending, 0⟩ := by
  fun_induction meet grammar met pending with
  | case1 met => exact .refl
  | case2 met code pending rule hfollow ih =>
    have hturn : Turn grammar ⟨met, ↑(code :: pending)⟩
        ⟨(code, rule) :: met, ↑(successors rule ++ pending)⟩ := by
      rw [← Multiset.cons_coe, ← Multiset.coe_add]
      exact .collect hfollow
    exact ih.head hturn
  | case3 met code pending hfollow ih =>
    have hturn : Turn grammar ⟨met, ↑(code :: pending)⟩ ⟨met, ↑pending⟩ := by
      rw [← Multiset.cons_coe]
      exact .pass hfollow
    exact ih.head hturn

/-- What a grammar collects from one code is what a run from it has come to. -/
theorem explores_meet (grammar : Grammar) (first : Code) :
    Explores grammar first ⟨grammar.meet [] [first], 0⟩ :=
  explores_of_turns (turns_meet grammar [] [first])

end Worklist

end Orthography
