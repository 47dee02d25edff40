import Mathlib.Algebra.Order.BigOperators.Group.List
import Mathlib.Data.List.Nodup
import Mathlib.Data.List.Perm.Subperm
import Orthography.Proofs.Derivation
import Orthography.Proofs.Reach.Root
import Orthography.Proofs.Reach.Worklist

/-!
# The rules that a rule can lead to

What `Grammar.meet` collects is closed: the rules that its rules go on to are collected with them.
A derivation applies each rule at most once, so the rules on the way to a form are among those
collected, and their losses together are no greater than the sum over all of them.
-/

namespace Orthography

namespace Grammar

variable {grammar : Grammar}

/-- A list of rules is closed if what they go on to is in it. -/
def Closed (grammar : Grammar) (closure : List (Code × AffixRule)) : Prop :=
  ∀ next ∈ closure, ∀ further ∈ grammar.continuations [] (successors next.2), further ∈ closure

/-- The rules that a code can lead to are closed, and its own rule is among them. -/
theorem closed_meet_single {code : Code} {rule : AffixRule}
    (hfollow : grammar.follow [] code = .rule rule) :
    grammar.Closed (grammar.meet [] [code]) ∧ (code, rule) ∈ grammar.meet [] [code] := by
  have hexplores := Worklist.explores_meet grammar code
  obtain ⟨hsentinel, -, hrule⟩ := follow_eq_rule_iff.mp hfollow
  constructor
  · rintro next hnext ⟨further, found⟩ hfurther
    obtain ⟨hcode, hother, -, hfound⟩ := mem_continuations.mp hfurther
    have hknows := hexplores.goesOn next hnext further hcode
      ⟨hother, Option.isSome_of_eq_some hfound⟩
    exact hexplores.mem_met (hknows.mem_codes rfl) hfound
  · have hknows := hexplores.starts ⟨hsentinel, Option.isSome_of_eq_some hrule⟩
    exact hexplores.mem_met (hknows.mem_codes rfl) hrule

end Grammar

/-! ### The losses on a path -/

namespace Reach

/-- The bound for applying the rules of a path one after the other. -/
def ofPath (path : List (Code × AffixRule)) : Reach :=
  path.foldl (fun reach next => reach.add (.ofRule next.2)) .none

/-- One more rule adds its bound. -/
theorem ofPath_concat (path : List (Code × AffixRule)) (next : Code × AffixRule) :
    ofPath (path ++ [next]) = (ofPath path).add (.ofRule next.2) := by
  rw [ofPath, List.foldl_append]
  rfl

/-- The losses on a path are the sums of the losses by its rules, as far as sums go. -/
theorem foldl_add (path : List (Code × AffixRule)) (start : Reach)
    (hleading : start.leading ≤ unlimited) (htrailing : start.trailing ≤ unlimited) :
    path.foldl (fun reach next => reach.add (.ofRule next.2)) start =
      ⟨addBounds start.leading (path.map fun next => (ofRule next.2).leading).sum,
        addBounds start.trailing (path.map fun next => (ofRule next.2).trailing).sum,
        start.prepends || path.any fun next => (ofRule next.2).prepends⟩ := by
  induction path generalizing start with
  | nil =>
      obtain ⟨leading, trailing, prepends⟩ := start
      simp only [List.foldl_nil, List.map_nil, List.sum_nil, List.any_nil, Bool.or_false, addBounds,
        Nat.add_zero]
      rw [Nat.min_eq_left hleading, Nat.min_eq_left htrailing]
  | cons next path ih =>
      rw [List.foldl_cons, ih _ (Nat.min_le_right _ _) (Nat.min_le_right _ _)]
      simp only [add, addBounds, List.map_cons, List.sum_cons, List.any_cons, Bool.or_assoc]
      congr 1 <;> omega

/-- A path through some of the rules of another has no greater losses. -/
theorem within_ofPath {path whole : List (Code × AffixRule)} (hpath : path.Subperm whole) :
    (ofPath path).Within (ofPath whole) := by
  have hsum (f : Code × AffixRule → Nat) : (path.map f).sum ≤ (whole.map f).sum := by
    obtain ⟨between, hperm, hsublist⟩ := hpath
    calc (path.map f).sum = (between.map f).sum := (hperm.symm.map f).sum_nat
      _ ≤ (whole.map f).sum := (hsublist.map f).sum_le_sum fun _ _ => Nat.zero_le _
  unfold ofPath
  rw [foldl_add path none (Nat.zero_le _) (Nat.zero_le _),
    foldl_add whole none (Nat.zero_le _) (Nat.zero_le _)]
  refine ⟨?_, ?_, ?_⟩
  · have hleading := hsum fun next => (ofRule next.2).leading
    simp only [addBounds, none]
    omega
  · have htrailing := hsum fun next => (ofRule next.2).trailing
    simp only [addBounds, none]
    omega
  · simp only [none, Bool.false_or, List.any_eq_true]
    rintro ⟨next, hnext, hprepends⟩
    exact ⟨next, hpath.subset hnext, hprepends⟩

/-- The bound of a path loses at the start only if a rule of the path adds there. -/
theorem grounded_ofPath (path : List (Code × AffixRule)) : (ofPath path).Grounded := by
  have hfold (start : Reach) (hstart : start.Grounded) :
      (path.foldl (fun reach next => reach.add (.ofRule next.2)) start).Grounded := by
    induction path generalizing start with
    | nil => exact hstart
    | cons next path ih => exact ih _ (hstart.add (grounded_ofRule next.2))
  exact hfold none grounded_none

end Reach

/-! ### Frames on a path -/

namespace Derivation

open Grammar

/-- A frame is on a path through a list of rules: its rule is the last of the path, no rule is on it
twice, and the form that it starts from keeps the stem but for the losses before. -/
structure OnPath (grammar : Grammar) (closure : List (Code × AffixRule)) (stem : Text)
    (path : List (Code × AffixRule)) (last : Code × AffixRule) (frame : Frame) : Prop where
  kind : frame.kind = last.2.kind
  entries : frame.entries = last.2.entries
  trail : frame.trail = (path ++ [last]).map (·.1)
  fresh : frame.trail.Nodup
  named : grammar.rule? last.1 = some last.2
  inside : path ++ [last] ⊆ closure
  keeps : (Reach.ofPath path).Keeps stem frame.base

variable {grammar : Grammar} {closure path : List (Code × AffixRule)} {last : Code × AffixRule}
  {stem middle form : Text} {frame after : Frame} {entry : AffixEntry}

/-- A form that a frame on a path derives keeps the stem but for the losses on the path. -/
theorem OnPath.keeps_form (honPath : OnPath grammar closure stem path last frame)
    (hcoherent : grammar.Coherent) (hentry : entry ∈ frame.entries)
    (hform : entry.derive? frame.kind frame.base = some form) :
    (Reach.ofPath (path ++ [last])).Keeps stem form := by
  rw [honPath.entries] at hentry
  rw [honPath.kind] at hform
  rw [Reach.ofPath_concat]
  exact honPath.keeps.derive (hcoherent _ _ honPath.named) hentry hform

/-- The frames that follow a frame on a path are on longer paths. -/
theorem OnPath.next (honPath : OnPath grammar closure stem path last frame)
    (hcoherent : grammar.Coherent) (hclosed : grammar.Closed closure)
    (hentry : entry ∈ frame.entries) (hmiddle : entry.derive? frame.kind frame.base = some middle)
    (hafter : after ∈ frames grammar frame.trail middle entry.continuation) :
    ∃ further, OnPath grammar closure stem (path ++ [last]) further after := by
  obtain ⟨⟨code, rule⟩, hfurther, rfl⟩ := List.mem_map.mp hafter
  obtain ⟨hcode, hsentinel, hfresh, hrule⟩ := mem_continuations.mp hfurther
  refine ⟨(code, rule), rfl, rfl, ?_, ?_, hrule, ?_, honPath.keeps_form hcoherent hentry hmiddle⟩
  · simp [honPath.trail]
  · exact List.Nodup.append honPath.fresh (List.pairwise_singleton _ code) (by simpa using hfresh)
  · have hsuccessor : code ∈ successors last.2 :=
      List.mem_flatMap.mpr ⟨entry, honPath.entries ▸ hentry, hcode⟩
    have hlast : last ∈ closure :=
      honPath.inside (List.mem_append_right _ (List.mem_singleton_self _))
    have hreached := hclosed last hlast (code, rule)
      (mem_continuations.mpr ⟨hsuccessor, hsentinel, List.not_mem_nil, hrule⟩)
    intro other hother
    rcases List.mem_append.mp hother with hother | hother
    · exact honPath.inside hother
    · rw [List.mem_singleton.mp hother]
      exact hreached

/-- Every form that a frame on a path gives keeps the stem but for the losses on some path. -/
theorem OnPath.exists_keeps (hcoherent : grammar.Coherent) (hclosed : grammar.Closed closure)
    (hgives : Gives grammar frame form) (honPath : OnPath grammar closure stem path last frame) :
    ∃ whole : List (Code × AffixRule),
      whole.Subperm closure ∧ (Reach.ofPath whole).Keeps stem form := by
  induction hgives generalizing path last with
  | here hentry hform =>
      have hfresh := honPath.fresh
      rw [honPath.trail] at hfresh
      exact ⟨path ++ [last], (List.Nodup.of_map _ hfresh).subperm honPath.inside,
        honPath.keeps_form hcoherent hentry hform⟩
  | further hentry hmiddle hnext hgives ih =>
      obtain ⟨further, hfurther⟩ := honPath.next hcoherent hclosed hentry hmiddle hnext
      exact ih hfurther

end Derivation

end Orthography
