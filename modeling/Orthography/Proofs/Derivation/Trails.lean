import Mathlib.Data.List.Flatten
import Orthography.Proofs.Derivation.Recursive
import Orthography.Reach

/-!
# Trails

A trail only takes away: the codes on it are cut off with all that would come of them, at any depth,
and the other forms stay in their order.  Codes that a rule cannot go on to make no difference to it
(`Grammar.derived_sublist`).
By code, a rule is applied after its own code, and by rule after no codes.  So the forms by code are
among those by rule, and these are no more unless the rule can come back to its own code
(`Grammar.formsByCode_sublist_formsByRule`).
-/

namespace Orthography

namespace Grammar

/-- A rule goes on to the codes that its entries name, and to those that the rules with these codes
go on to.  The sentinel and codes without a rule lead no further. -/
inductive GoesOnTo (grammar : Grammar) : AffixRule → Code → Prop
  | here {rule : AffixRule} {code : Code} (hcode : code ∈ successors rule) :
      GoesOnTo grammar rule code
  | further {rule next : AffixRule} {middle code : Code} (hmiddle : middle ∈ successors rule)
      (hsentinel : middle ≠ Code.sentinel) (hnext : grammar.rule? middle = some next)
      (hcode : GoesOnTo grammar next code) : GoesOnTo grammar rule code

variable {grammar : Grammar} {trail fewer : List Code} {code : Code} {rule : AffixRule}
  {base : Text}

/-- After a trail a rule derives no more than after another, and in the same order, if the first
trail has all codes of the second that the rule goes on to. -/
theorem derived_sublist
    (hfewer : ∀ code, grammar.GoesOnTo rule code → code ∈ fewer → code ∈ trail) :
    (grammar.derived trail rule base).Sublist (grammar.derived fewer rule base) := by
  induction trail, rule, base using Grammar.derived.induct grammar generalizing fewer with
  | case1 trail rule base ih =>
    rw [derived_eq_flatMap, derived_eq_flatMap]
    apply List.Sublist.flatMap_right
    intro entry hentry
    cases hderive : entry.derive? rule.kind base with
    | none =>
        rw [derivedBy_of_none hderive]
        exact List.nil_sublist _
    | some form =>
        rw [derivedBy_of_some hderive, derivedBy_of_some hderive]
        apply List.Sublist.cons_cons
        apply List.Sublist.flatMap_right
        intro code hcode
        -- What the first trail lets through, the second lets through too, and a code that joins
        -- both keeps the relation between them.
        cases hfollow : grammar.follow trail code with
        | rule next =>
            obtain ⟨hsentinel, hfresh, hnext⟩ := follow_eq_rule_iff.mp hfollow
            have hsuccessor : code ∈ successors rule := List.mem_flatMap.mpr ⟨entry, hentry, hcode⟩
            have hthere : grammar.follow fewer code = .rule next :=
              follow_eq_rule_iff.mpr
                ⟨hsentinel, fun hon => hfresh (hfewer code (.here hsuccessor) hon), hnext⟩
            rw [derivedFurther_of_follow hfollow, derivedFurther_of_follow hthere]
            apply ih form code ⟨hsentinel, hfresh⟩ next hnext
            intro further hfurther hon
            rcases List.mem_append.mp hon with hon | hlast
            · have hreached : grammar.GoesOnTo rule further :=
                .further hsuccessor hsentinel hnext hfurther
              exact List.mem_append_left _ (hfewer further hreached hon)
            · exact List.mem_append_right _ hlast
        | skip | cycle | unknown =>
            rw [derivedFurther_eq_nil (by simp [hfollow])]
            exact List.nil_sublist _

/-- The forms by a code are some of those by its rule, in the same order, and they are all of these
if the rule does not go on to the code. -/
theorem formsByCode_sublist_formsByRule (hcode : code ≠ Code.sentinel)
    (hrule : grammar.rule? code = some rule) (stem : Text) :
    (grammar.formsByCode code stem).value.Sublist (grammar.formsByRule rule stem).value ∧
      (¬ grammar.GoesOnTo rule code →
        (grammar.formsByCode code stem).value = (grammar.formsByRule rule stem).value) := by
  rw [value_formsByCode hcode hrule, value_formsByRule]
  have hsublist : (grammar.derived [code] rule stem).Sublist (grammar.derived [] rule stem) :=
    derived_sublist fun _ _ hon => absurd hon List.not_mem_nil
  refine ⟨hsublist, fun hnever => hsublist.antisymm (derived_sublist fun other hother hon => ?_)⟩
  rw [List.mem_singleton.mp hon] at hother
  exact absurd hother hnever

/-- Plural forms go on to endings that go on to nothing, so the forms by code are those by rule. -/
theorem formsByCode_sublist_formsByRule_continued :
    ∃ (grammar : Grammar) (rule : AffixRule), ['P', 'L'] ≠ Code.sentinel ∧
      grammar.rule? ['P', 'L'] = some rule ∧
      (grammar.formsByRule rule "pony".toList).value = ["ponys".toList, "ponysen".toList] ∧
      (grammar.formsByCode ['P', 'L'] "pony".toList).value.Sublist
        (grammar.formsByRule rule "pony".toList).value ∧
      ¬ grammar.GoesOnTo rule ['P', 'L'] ∧
      (grammar.formsByCode ['P', 'L'] "pony".toList).value =
        (grammar.formsByRule rule "pony".toList).value := by
  let plural : AffixRule := ⟨.trailing, true, [⟨['s'], none, none, [['N', 'E']]⟩]⟩
  let ending : AffixRule := ⟨.trailing, true, [⟨['e', 'n'], none, none, []⟩]⟩
  let grammar := ofStatements [.rule ['P', 'L'] plural, .rule ['N', 'E'] ending]
  have hcode : ['P', 'L'] ≠ Code.sentinel := by decide
  have hrule : grammar.rule? ['P', 'L'] = some plural := by decide +kernel
  have hnext : grammar.rule? ['N', 'E'] = some ending := by decide +kernel
  have hforms : (grammar.formsByRule plural "pony".toList).value =
      ["ponys".toList, "ponysen".toList] := by decide +kernel
  have hnever : ¬ grammar.GoesOnTo plural ['P', 'L'] := by
    intro hback
    cases hback with
    | here hcode => exact absurd hcode (by decide)
    | further hmiddle _ hrule' hback =>
        obtain rfl := List.mem_singleton.mp hmiddle
        obtain rfl := Option.some.inj (hnext.symm.trans hrule')
        cases hback with
        | here hcode => cases hcode
        | further hmiddle => cases hmiddle
  obtain ⟨hsublist, hequal⟩ := formsByCode_sublist_formsByRule hcode hrule "pony".toList
  exact ⟨grammar, plural, hcode, hrule, hforms, hsublist, hnever, hequal hnever⟩

/-- A rule that goes on to its own code derives more by rule than by code. -/
example :
    let rule : AffixRule := ⟨.trailing, true, [⟨['x'], none, none, [['L', 'P']]⟩]⟩
    let grammar := ofStatements [.rule ['L', 'P'] rule]
    (grammar.formsByCode ['L', 'P'] ['a']).value = ["ax".toList] ∧
      (grammar.formsByRule rule ['a']).value = ["ax".toList, "axx".toList] := by
  decide +kernel

end Grammar

end Orthography
