import Mathlib.Data.Finset.Lattice.Fold
import Mathlib.Order.Lattice.Nat
import Orthography.Proofs.Reach.Prefilter
import Orthography.Proofs.Reach.Worklist

/-!
# The bound of a code as a sum

The bound of a code is what the rules of the least closed set from it add up to: at each end the sum
of the greatest losses by its rules, each rule counted once, as far as sums of bounds go
(`Grammar.reachTable_eq_totalReach`).  Collecting may take up codes in any order, since each run
ends with the same set (`Worklist.Explores.isLeast`) and sums of bounds do not depend on the order
of their terms (`Grammar.ofPath_eq_totalReach`).
-/

namespace Orthography

/-- The most that an entry of a rule can take away, zero if none takes anything away. -/
def AffixRule.greatestLoss (rule : AffixRule) : Nat :=
  (rule.entries.filterMap (·.remove)).toFinset.sup Removal.reach

namespace Grammar

/-- The rule with a code is of a kind. -/
def HasKind (grammar : Grammar) (kind : AffixKind) (code : Code) : Prop :=
  (grammar.rule? code).map (·.kind) = some kind

instance (grammar : Grammar) (kind : AffixKind) : DecidablePred (grammar.HasKind kind) :=
  fun _ => inferInstanceAs (Decidable (_ = _))

/-- The most that an entry of the rule with a code can take away. -/
def lossByCode (grammar : Grammar) (code : Code) : Nat :=
  ((grammar.rule? code).map (·.greatestLoss)).getD 0

/-- The losses by the rules of a kind among some codes together, as far as sums of bounds go. -/
def totalLoss (grammar : Grammar) (kind : AffixKind) (codes : Finset Code) : Nat :=
  min (∑ code ∈ codes with grammar.HasKind kind code, grammar.lossByCode code) unlimited

/-- The bound that the rules of some codes add up to. -/
def totalReach (grammar : Grammar) (codes : Finset Code) : Reach where
  leading := grammar.totalLoss .leading codes
  trailing := grammar.totalLoss .trailing codes
  prepends := decide (∃ code ∈ codes, grammar.HasKind .leading code)

end Grammar

namespace Reach

/-- The greatest of some losses is the least that none of them exceeds. -/
theorem foldl_max_eq_sup (removals : List Removal) (loss : Nat) :
    (removals.map (·.reach)).foldl max loss = max loss (removals.toFinset.sup Removal.reach) := by
  induction removals generalizing loss with
  | nil => simp
  | cons removal removals ih =>
    rw [List.map_cons, List.foldl_cons, ih, List.toFinset_cons, Finset.sup_insert, max_assoc]

/-- The loss of a rule is the most that one of its entries can take away. -/
theorem lossOf_eq (rule : AffixRule) : lossOf rule = rule.greatestLoss := by
  have hlosses : rule.entries.filterMap (fun entry => entry.remove.map (·.reach)) =
      (rule.entries.filterMap (·.remove)).map (·.reach) := by
    rw [List.map_filterMap]
  rw [lossOf, hlosses, foldl_max_eq_sup, Nat.zero_max, AffixRule.greatestLoss]

/-- A rule bounds the loss at its own end and no other, and text is put in front by the rules that
add there. -/
theorem ofRule_eq (rule : AffixRule) :
    ofRule rule = ⟨if rule.kind = .leading then rule.greatestLoss else 0,
      if rule.kind = .trailing then rule.greatestLoss else 0, decide (rule.kind = .leading)⟩ := by
  rw [← lossOf_eq]
  cases hkind : rule.kind with
  | leading => simp [ofRule_of_leading hkind]
  | trailing => simp [ofRule_of_trailing hkind]

end Reach

namespace Grammar

variable {grammar : Grammar} {code : Code} {met : List (Code × AffixRule)}

/-- Losses at one end, summed over collected rules and over their codes. -/
theorem sum_losses (hnamed : ∀ next ∈ met, grammar.rule? next.1 = some next.2)
    (honce : (met.map (·.1)).Nodup) (kind : AffixKind) :
    (met.map fun next => if next.2.kind = kind then next.2.greatestLoss else 0).sum =
      ∑ code ∈ (met.map (·.1)).toFinset with grammar.HasKind kind code,
        grammar.lossByCode code := by
  rw [Finset.sum_filter, List.sum_toFinset _ honce, List.map_map]
  congr 1
  apply List.map_congr_left
  intro next hnext
  simp [HasKind, lossByCode, hnamed next hnext]

/-- The bounds of rules that are collected once each add up to the bound of their codes. -/
theorem ofPath_eq_totalReach (hnamed : ∀ next ∈ met, grammar.rule? next.1 = some next.2)
    (honce : (met.map (·.1)).Nodup) :
    Reach.ofPath met = grammar.totalReach (met.map (·.1)).toFinset := by
  have hprepends : (met.any fun next => decide (next.2.kind = .leading)) =
      (grammar.totalReach (met.map (·.1)).toFinset).prepends := by
    rw [Bool.eq_iff_iff, List.any_eq_true, totalReach, decide_eq_true_iff]
    constructor
    · rintro ⟨next, hnext, hkind⟩
      refine ⟨next.1, List.mem_toFinset.mpr (List.mem_map_of_mem hnext), ?_⟩
      simpa [HasKind, hnamed next hnext] using hkind
    · rintro ⟨code, hcode, hkind⟩
      obtain ⟨next, hnext, rfl⟩ := List.mem_map.mp (List.mem_toFinset.mp hcode)
      exact ⟨next, hnext, by simpa [HasKind, hnamed next hnext] using hkind⟩
  rw [Reach.ofPath, Reach.foldl_add met .none (Nat.zero_le _) (Nat.zero_le _)]
  simp only [Reach.ofRule_eq, Reach.none, addBounds, Nat.zero_add, Bool.false_or, totalReach,
    totalLoss, sum_losses hnamed honce, hprepends]

end Grammar

/-- Whatever the order in which codes are taken up, collecting from a code comes to an end with the
rules of some codes, each once, and with the bound that these add up to. -/
structure Worklist.EndsWith (grammar : Grammar) (first : Code) (closure : Finset Code) : Prop where
  /-- No run goes on for ever. -/
  ends : Acc (fun after before => Turn grammar before after) (start first)
  /-- The grammar collects by such a run. -/
  meets : Relation.ReflTransGen (Turn grammar) (start first) ⟨grammar.meet [] [first], 0⟩
  collected : ∀ last, Relation.ReflTransGen (Turn grammar) (start first) last →
    last.Ended grammar → last.codes.Nodup ∧ last.codes.toFinset = closure
  reach : ∀ last, Relation.ReflTransGen (Turn grammar) (start first) last →
    last.Ended grammar → Reach.ofPath last.met = grammar.totalReach closure

namespace Grammar

variable {grammar : Grammar} {code : Code}

/-- The bound of the rule with a code is the sum over all that the code can lead to.  There is a
least set of codes that is closed from the code on.  Collecting from the code ends with this set,
also where rules go on to one another in a circle and where codes are pending more than once, and
the table has for the code what the rules of the set add up to. -/
theorem reachTable_eq_totalReach (hcode : code ∈ grammar.rules.keys) :
    ∃ closure : Finset Code,
      IsLeast {codes : Set Code | grammar.ClosedFrom code codes} ↑closure ∧
        Worklist.EndsWith grammar code closure ∧
        grammar.reachTable.get? code = some (grammar.totalReach closure) := by
  have hrule : (grammar.rule? code).isSome = true := Table.mem_keys_iff.mp hcode
  let closure := ((grammar.meet [] [code]).map (·.1)).toFinset
  have hleast : IsLeast {codes : Set Code | grammar.ClosedFrom code codes} ↑closure :=
    (Worklist.explores_meet grammar code).isLeast hrule rfl
  -- The least set is the same for all runs, so what a run has collected does not depend on it.
  have hends : Worklist.EndsWith grammar code closure := by
    have hlast (last : Worklist)
        (hturns : Relation.ReflTransGen (Worklist.Turn grammar) (.start code) last)
        (hended : last.Ended grammar) : last.codes.toFinset = closure := by
      have hexplores := Worklist.explores_of_turns hturns
      have hsame := (hexplores.isLeast hrule (Worklist.ended_iff.mp hended)).unique hleast
      exact Finset.coe_injective hsame
    constructor
    case ends => exact Worklist.acc_turn grammar (.start code)
    case meets => exact Worklist.turns_meet grammar [] [code]
    case collected =>
      intro last hturns hended
      exact ⟨(Worklist.explores_of_turns hturns).once, hlast last hturns hended⟩
    case reach =>
      intro last hturns hended
      have hexplores := Worklist.explores_of_turns hturns
      rw [← hlast last hturns hended]
      exact ofPath_eq_totalReach (fun next hnext => (hexplores.named next hnext).2) hexplores.once
  refine ⟨closure, hleast, hends, ?_⟩
  obtain ⟨rule, hnamed⟩ := Option.isSome_iff_exists.mp hrule
  rw [get?_reachTable hnamed, reachOfCode_eq]
  exact congrArg some (hends.reach _ hends.meets (Worklist.ended_iff.mpr rfl))

/-- Two suffixes and a prefix that go on to one another, to a code without a rule and to the
sentinel.  The prefix and the second suffix take away two characters at most, the first suffix
one. -/
theorem reachTable_eq_totalReach_circular :
    ∃ (grammar : Grammar) (closure : Finset Code), ['X', '1'] ∈ grammar.rules.keys ∧
      closure = {['X', '1'], ['X', '2'], ['P', '1']} ∧
      IsLeast {codes : Set Code | grammar.ClosedFrom ['X', '1'] codes} ↑closure ∧
      Worklist.EndsWith grammar ['X', '1'] closure ∧
      grammar.totalReach closure = ⟨2, 3, true⟩ ∧
      grammar.reachTable.get? ['X', '1'] = some ⟨2, 3, true⟩ := by
  let affix := ("SFX X1 Y 1\nSFX X1 y a/X2P1V2ZZX2 .\nSFX X2 Y 2\nSFX X2 bc d/X1 .\n" ++
    "SFX X2 e f .\nPFX P1 Y 1\nPFX P1 un re/X1P1 .\n").toList
  let grammar := (Grammar.read affix).value.toOption.getD .empty
  let three : Finset Code := {['X', '1'], ['X', '2'], ['P', '1']}
  -- What is to be evaluated stands together, so that the text is read once.
  obtain ⟨hcode, htotal, hgoesOn, hstep⟩ : ['X', '1'] ∈ grammar.rules.keys ∧
      grammar.totalReach three = ⟨2, 3, true⟩ ∧
      (∀ code ∈ three, ∀ rule ∈ grammar.rule? code, ∀ next ∈ successors rule,
        next ≠ Code.sentinel ∧ (grammar.rule? next).isSome → next ∈ three) ∧
      (grammar.rule? ['X', '1']).any fun rule =>
        decide (∀ next ∈ ([['X', '2'], ['P', '1']] : List Code),
          next ∈ successors rule ∧ next ≠ Code.sentinel ∧ (grammar.rule? next).isSome) := by
    decide +kernel
  have hthree : IsLeast {codes : Set Code | grammar.ClosedFrom ['X', '1'] codes} ↑three := by
    refine ⟨⟨fun _ => by decide, hgoesOn⟩, fun codes hclosed code hcode => ?_⟩
    obtain ⟨rule, hrule, hnext⟩ := (Option.any_eq_true _ _).mp hstep
    have hfirst : ['X', '1'] ∈ codes := hclosed.starts (by decide)
    have hothers : ∀ next ∈ ([['X', '2'], ['P', '1']] : List Code), next ∈ codes := by
      intro next hlisted
      obtain ⟨hsuccessor, happlies⟩ := of_decide_eq_true hnext next hlisted
      exact hclosed.goesOn _ hfirst rule hrule next hsuccessor happlies
    rcases Finset.mem_insert.mp hcode with rfl | hother
    · exact hfirst
    · exact hothers code (by simpa using hother)
  obtain ⟨closure, hleast, hends, htable⟩ := reachTable_eq_totalReach hcode
  obtain rfl : closure = three := Finset.coe_injective (hleast.unique hthree)
  exact ⟨grammar, three, hcode, rfl, hleast, hends, htotal, htable.trans (congrArg some htotal)⟩

end Grammar

end Orthography
