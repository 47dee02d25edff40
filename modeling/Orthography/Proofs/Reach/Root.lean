import Mathlib.Order.Basic
import Orthography.Proofs.Affix.Removal
import Orthography.Reach

/-!
# What a derivation keeps of a stem

A bound keeps a stem in a form if the root of the stem occurs there; in front of it, if nothing can
be put there.  Leaving a stem alone keeps it within no loss at all, each rule that is applied adds
its own bound to what may be lost, and a wider bound keeps no more.  Losses mix: an entry may take
away text that another added.  The root is what is left when all of them fall on the stem.
-/

namespace Orthography

/-! ### Parts of words -/

section Parts

variable {part word : Text} {loss kept dropped : Nat}

/-- A word that loses characters at its end keeps a part of it but for so many at the end. -/
theorem take_prefix_take (hpart : part <+: word) (hkept : word.length ≤ kept + loss) :
    part.take (part.length - loss) <+: word.take kept := by
  rw [List.prefix_take_iff, List.length_take]
  have hlength := hpart.length_le
  exact ⟨(List.take_prefix _ _).trans hpart, by omega⟩

/-- The same for a part that occurs anywhere. -/
theorem take_infix_take (hpart : part <:+: word) (hkept : word.length ≤ kept + loss) :
    part.take (part.length - loss) <:+: word.take kept := by
  obtain ⟨front, back, rfl⟩ := hpart
  by_cases hlost : part.length ≤ loss
  · rw [Nat.sub_eq_zero_of_le hlost, List.take_zero]
    exact List.nil_infix
  · have hstart :
        front ++ part.take (part.length - loss) <+: (front ++ part ++ back).take kept := by
      rw [List.prefix_take_iff, List.append_assoc, List.prefix_append_right_inj]
      simp only [List.length_append, List.length_take] at hkept ⊢
      exact ⟨(List.take_prefix _ _).trans (List.prefix_append _ _), by omega⟩
    exact (List.suffix_append front _).isInfix.trans hstart.isInfix

/-- A word that loses characters at its start keeps a part of it but for so many at the start. -/
theorem drop_infix_drop (hpart : part <:+: word) (hdropped : dropped ≤ loss) :
    part.drop loss <:+: word.drop dropped := by
  obtain ⟨front, back, rfl⟩ := hpart
  by_cases hlost : part.length ≤ loss
  · rw [List.drop_eq_nil_of_le hlost]
    exact List.nil_infix
  · have hend : part.drop loss ++ back <:+ (front ++ part ++ back).drop dropped := by
      refine List.suffix_of_suffix_length_le ?_ (List.drop_suffix _ _) ?_
      · rw [List.append_assoc]
        refine (List.IsSuffix.trans ?_ (List.suffix_append front _))
        rw [List.suffix_append_self_iff]
        exact List.drop_suffix _ _
      · simp only [List.length_append, List.length_drop]
        omega
    exact (List.prefix_append _ back).isInfix.trans hend.isInfix

end Parts

/-- What is left of a stem without some characters at its start and some at its end. -/
def core (stem : Text) (leading trailing : Nat) : Text :=
  (stem.drop leading).take (stem.length - (leading + trailing))

/-- Losing more at the end. -/
theorem core_trailing (stem : Text) (leading trailing loss : Nat) :
    core stem leading (trailing + loss) =
      (core stem leading trailing).take ((core stem leading trailing).length - loss) := by
  unfold core
  rw [List.take_take, List.length_take, List.length_drop]
  congr 1
  omega

/-- Losing more at the start. -/
theorem core_leading (stem : Text) (leading trailing loss : Nat) :
    core stem (leading + loss) trailing = (core stem leading trailing).drop loss := by
  unfold core
  rw [List.drop_take, List.drop_drop]
  congr 1
  omega

namespace Reach

/-- A bound without limit keeps nothing of a stem. -/
theorem root_of_unlimited {reach : Reach} (hlimit : unlimited ≤ reach.leading + reach.trailing)
    (stem : Text) : reach.root stem = [] := by
  unfold root addBounds
  rw [Nat.min_eq_right hlimit]
  simp

/-- A bound with a limit keeps what is left after the losses at both ends. -/
theorem root_of_limited {reach : Reach} (hlimit : reach.leading + reach.trailing < unlimited)
    (stem : Text) : reach.root stem = core stem reach.leading reach.trailing := by
  unfold root addBounds core
  rw [Nat.min_eq_left hlimit.le]
  dsimp only
  split
  · rename_i hlost
    have hlength : stem.length ≤ reach.leading + reach.trailing := by
      simpa [hlimit.ne] using hlost
    rw [Nat.sub_eq_zero_of_le hlength, List.take_zero]
  · rfl

/-- The root of a stem occurs in a form, and at its start if nothing can be put in front of it. -/
def Keeps (reach : Reach) (stem form : Text) : Prop :=
  if reach.prepends then reach.root stem <:+: form else reach.root stem <+: form

variable {reach wider : Reach} {stem base form : Text}

/-- What is kept occurs in the form. -/
theorem Keeps.infix (hkeeps : reach.Keeps stem form) : reach.root stem <:+: form := by
  unfold Keeps at hkeeps
  split at hkeeps
  · exact hkeeps
  · exact hkeeps.isInfix

/-- A bound without limit keeps a stem in any form. -/
theorem keeps_of_unlimited (hlimit : unlimited ≤ reach.leading + reach.trailing) :
    reach.Keeps stem form := by
  unfold Keeps
  rw [root_of_unlimited hlimit]
  split
  · exact List.nil_infix
  · exact List.nil_prefix

/-- A stem that is left as it is keeps itself. -/
theorem keeps_none (stem : Text) : none.Keeps stem stem := by
  have hroot : none.root stem = stem := by
    rw [root_of_limited (by decide)]
    simp [core, none]
  unfold Keeps
  rw [hroot]
  exact List.prefix_rfl

/-! ### One more rule -/

/-- No entry of a rule can take away more than the rule is said to. -/
theorem reach_le_foldl_max {losses : List Nat} {loss : Nat} (start : Nat) (hloss : loss ∈ losses) :
    loss ≤ losses.foldl max start := by
  have hgrows (losses : List Nat) (start : Nat) : start ≤ losses.foldl max start := by
    induction losses generalizing start with
    | nil => exact le_rfl
    | cons other losses ih => exact (Nat.le_max_left start other).trans (ih _)
  induction losses generalizing start with
  | nil => cases hloss
  | cons other losses ih =>
      rcases List.mem_cons.mp hloss with rfl | hloss
      · exact (Nat.le_max_right start loss).trans (hgrows losses _)
      · exact ih _ hloss

/-- The greatest loss by an entry of a rule. -/
def lossOf (rule : AffixRule) : Nat :=
  (rule.entries.filterMap fun entry => entry.remove.map (·.reach)).foldl max 0

/-- No entry of a rule takes away more than the greatest loss. -/
theorem reach_le_lossOf {rule : AffixRule} {entry : AffixEntry} {removal : Removal}
    (hentry : entry ∈ rule.entries) (hremove : entry.remove = some removal) :
    removal.reach ≤ lossOf rule := by
  refine reach_le_foldl_max 0 (List.mem_filterMap.mpr ⟨entry, hentry, ?_⟩)
  rw [hremove, Option.map_some]

/-- The bound for a rule that adds at the end. -/
theorem ofRule_of_trailing {rule : AffixRule} (hkind : rule.kind = .trailing) :
    ofRule rule = ⟨0, lossOf rule, false⟩ := by
  unfold ofRule
  rw [hkind]
  rfl

/-- The bound for a rule that adds at the start. -/
theorem ofRule_of_leading {rule : AffixRule} (hkind : rule.kind = .leading) :
    ofRule rule = ⟨lossOf rule, 0, true⟩ := by
  unfold ofRule
  rw [hkind]
  rfl

/-- What is kept after a loss at the end, where the losses have a limit. -/
theorem root_add_trailing {loss : Nat} (stem : Text)
    (hlimit : (reach.add ⟨0, loss, false⟩).leading + (reach.add ⟨0, loss, false⟩).trailing <
      unlimited) :
    loss < unlimited ∧ (reach.add ⟨0, loss, false⟩).root stem =
      (reach.root stem).take ((reach.root stem).length - loss) := by
  have hsums := hlimit
  simp only [add, addBounds, Nat.add_zero] at hsums
  refine ⟨by omega, ?_⟩
  rw [root_of_limited hlimit, root_of_limited (by omega), ← core_trailing]
  simp only [add, addBounds, Nat.add_zero]
  congr 1 <;> omega

/-- What is kept after a loss at the start, where the losses have a limit. -/
theorem root_add_leading {loss : Nat} (stem : Text)
    (hlimit : (reach.add ⟨loss, 0, true⟩).leading + (reach.add ⟨loss, 0, true⟩).trailing <
      unlimited) :
    loss < unlimited ∧ (reach.add ⟨loss, 0, true⟩).root stem = (reach.root stem).drop loss := by
  have hsums := hlimit
  simp only [add, addBounds, Nat.add_zero] at hsums
  refine ⟨by omega, ?_⟩
  rw [root_of_limited hlimit, root_of_limited (by omega), ← core_leading]
  simp only [add, addBounds, Nat.add_zero]
  congr 1 <;> omega

/-- A form that a rule derives keeps what the form before it kept, but for the loss by the rule. -/
theorem Keeps.derive {rule : AffixRule} {entry : AffixEntry} (hcoherent : rule.Coherent)
    (hentry : entry ∈ rule.entries) (hkeeps : reach.Keeps stem base)
    (hform : entry.derive? rule.kind base = some form) :
    (reach.add (ofRule rule)).Keeps stem form := by
  by_cases hlimit : unlimited ≤
      (reach.add (ofRule rule)).leading + (reach.add (ofRule rule)).trailing
  · exact keeps_of_unlimited hlimit
  rw [not_le] at hlimit
  have hremove (removal : Removal) (hsome : entry.remove = some removal) :
      removal.IsAt rule.kind ∧ removal.reach ≤ lossOf rule :=
    ⟨hcoherent entry hentry removal hsome, reach_le_lossOf hentry hsome⟩
  unfold AffixEntry.derive? at hform
  split at hform
  case isFalse => cases hform
  cases hkind : rule.kind with
  | trailing =>
      rw [hkind] at hform hremove
      rw [ofRule_of_trailing hkind] at hlimit ⊢
      cases hform
      obtain ⟨hloss, hroot⟩ := root_add_trailing stem hlimit
      obtain ⟨kept, hbase, hkept⟩ := AffixEntry.base_trailing hloss hremove base
      unfold Keeps at hkeeps ⊢
      rw [hroot, hbase]
      simp only [add, Bool.or_false]
      split
      · rename_i hprepends
        rw [if_pos hprepends] at hkeeps
        exact (take_infix_take hkeeps hkept).trans (List.prefix_append _ _).isInfix
      · rename_i hprepends
        rw [if_neg hprepends] at hkeeps
        exact (take_prefix_take hkeeps hkept).trans (List.prefix_append _ _)
  | leading =>
      rw [hkind] at hform hremove
      rw [ofRule_of_leading hkind] at hlimit ⊢
      cases hform
      obtain ⟨hloss, hroot⟩ := root_add_leading stem hlimit
      obtain ⟨dropped, hbase, hdropped⟩ := AffixEntry.base_leading hloss hremove base
      unfold Keeps
      rw [hroot, hbase]
      simp only [add, Bool.or_true, ↓reduceIte]
      exact (drop_infix_drop hkeeps.infix hdropped).trans (List.suffix_append _ _).isInfix

/-! ### Wider bounds -/

/-- A bound allows no more than another. -/
structure Within (narrow wide : Reach) : Prop where
  leading : narrow.leading ≤ wide.leading
  trailing : narrow.trailing ≤ wide.trailing
  prepends : narrow.prepends = true → wide.prepends = true

/-- A bound loses at the start of a stem only if something can be put there. -/
def Grounded (reach : Reach) : Prop := reach.prepends = false → reach.leading = 0

theorem grounded_none : none.Grounded := fun _ => rfl

theorem grounded_ofRule (rule : AffixRule) : (ofRule rule).Grounded := by
  cases hkind : rule.kind with
  | trailing =>
      rw [ofRule_of_trailing hkind]
      exact fun _ => rfl
  | leading =>
      rw [ofRule_of_leading hkind]
      intro hprepends
      cases hprepends

theorem Grounded.add {a b : Reach} (ha : a.Grounded) (hb : b.Grounded) : (a.add b).Grounded := by
  intro hprepends
  obtain ⟨hfirst, hsecond⟩ := Bool.or_eq_false_iff.mp hprepends
  simp [Reach.add, addBounds, ha hfirst, hb hsecond]

theorem Grounded.merge {a b : Reach} (ha : a.Grounded) (hb : b.Grounded) :
    (a.merge b).Grounded := by
  intro hprepends
  obtain ⟨hfirst, hsecond⟩ := Bool.or_eq_false_iff.mp hprepends
  simp [Reach.merge, ha hfirst, hb hsecond]

/-- A wider bound keeps what a narrower one keeps, or less. -/
theorem Keeps.mono (hwithin : reach.Within wider) (hgrounded : wider.Grounded)
    (hkeeps : reach.Keeps stem form) : wider.Keeps stem form := by
  by_cases hlimit : unlimited ≤ wider.leading + wider.trailing
  · exact keeps_of_unlimited hlimit
  rw [not_le] at hlimit
  have hleading := hwithin.leading
  have htrailing := hwithin.trailing
  have hroot : wider.root stem = ((reach.root stem).drop (wider.leading - reach.leading)).take
      (((reach.root stem).drop (wider.leading - reach.leading)).length -
        (wider.trailing - reach.trailing)) := by
    rw [root_of_limited hlimit, root_of_limited (by omega), ← core_leading, ← core_trailing]
    congr 1 <;> omega
  unfold Keeps
  split
  · rw [hroot]
    exact ((List.take_prefix _ _).isInfix.trans (List.drop_suffix _ _).isInfix).trans hkeeps.infix
  · rename_i hprepends
    rw [Bool.not_eq_true] at hprepends
    have hnarrow : reach.prepends = false := by
      cases hreach : reach.prepends with
      | false => rfl
      | true => rw [hwithin.prepends hreach] at hprepends; exact hprepends
    unfold Keeps at hkeeps
    rw [hnarrow] at hkeeps
    rw [hroot, hgrounded hprepends, Nat.zero_sub, List.drop_zero]
    exact (List.take_prefix _ _).trans hkeeps

end Reach

end Orthography
