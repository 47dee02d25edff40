import Mathlib.Data.List.Basic
import Orthography.CommandLine.Arguments

/-!
# Options among arguments

For an option, arguments are read in units: the option joined to its value, the option with its
value behind it, whatever that looks like, and single arguments that are not the option.  A unit is
told by its first argument, so arguments split into units in one way (`Splits.unique`).  Taking the
option out goes from unit to unit (`takeOption_append`): the value of the last one that has a value
counts and the plain arguments stay, in their order.  It fails exactly if the option stands alone
behind the last unit (`takeOption_eq_error_iff`).
-/

namespace Orthography.CommandLine

/-- What is read at once when arguments are searched for an option. -/
inductive ArgumentUnit where
  /-- The option and its value in one argument. -/
  | joined (value : Text)
  /-- The option by one of its names and, as the next argument, its value. -/
  | spaced (name value : Text)
  /-- An argument that is not the option. -/
  | plain (arg : Text)
  deriving DecidableEq, Repr

namespace ArgumentUnit

/-- The arguments that a unit consists of. -/
def args (long : Text) : ArgumentUnit → List Text
  | joined value => [long ++ '=' :: value]
  | spaced name value => [name, value]
  | plain arg => [arg]

/-- The value that a unit gives the option. -/
def value? : ArgumentUnit → Option Text
  | joined value => some value
  | spaced _ value => some value
  | plain _ => none

/-- The argument that a unit leaves. -/
def plain? : ArgumentUnit → Option Text
  | plain arg => some arg
  | _ => none

/-- A unit with a value of its own is named by a name of the option, and one without is not the
option. -/
def Fits (short long : Text) : ArgumentUnit → Prop
  | joined _ => True
  | spaced name _ => name = long ∨ name = short
  | plain arg => ¬ long ++ ['='] <+: arg ∧ arg ≠ long ∧ arg ≠ short

instance (short long : Text) : DecidablePred (Fits short long)
  | joined _ => inferInstanceAs (Decidable True)
  | spaced _ _ => inferInstanceAs (Decidable (_ ∨ _))
  | plain _ => inferInstanceAs (Decidable (_ ∧ _))

end ArgumentUnit

open ArgumentUnit

/-- The value of the last unit that has one. -/
def lastValue (units : List ArgumentUnit) : Option Text := (units.filterMap value?).getLast?

/-- The arguments that are not the option, in order. -/
def plains (units : List ArgumentUnit) : List Text := units.filterMap plain?

/-- Arguments split into units. -/
structure Splits (short long : Text) (units : List ArgumentUnit) (args : List Text) : Prop where
  args_eq : units.flatMap (ArgumentUnit.args long) = args
  fits : ∀ unit ∈ units, unit.Fits short long

section Units

variable {short long name : Text} {unit other : ArgumentUnit} {units others : List ArgumentUnit}
  {args rest otherRest : List Text}

/-- Nothing is left of a text behind what it does not start with. -/
theorem isPrefixOf?_eq_none_iff {start text : Text} :
    start.isPrefixOf? text = none ↔ ¬ start <+: text := by
  rw [← List.isPrefixOf_iff_prefix, ← List.isSome_isPrefixOf?_eq_isPrefixOf,
    Option.not_isSome_iff_eq_none]

/-- Neither name of an option has a value joined to it. -/
theorem not_joined_of_name (hshort : ¬ long ++ ['='] <+: short)
    (hname : name = long ∨ name = short) : ¬ long ++ ['='] <+: name := by
  rcases hname with rfl | rfl
  · intro hprefix
    have hlength := hprefix.length_le
    rw [List.length_append, List.length_singleton] at hlength
    omega
  · exact hshort

/-! ### Splitting -/

/-- The first argument of a unit tells which unit it is, and so where it ends. -/
theorem ArgumentUnit.args_append_injective (hshort : ¬ long ++ ['='] <+: short)
    (hunit : unit.Fits short long) (hother : other.Fits short long)
    (hsame : unit.args long ++ rest = other.args long ++ otherRest) :
    unit = other ∧ rest = otherRest := by
  have hjoined (value : Text) : long ++ ['='] <+: long ++ '=' :: value := ⟨value, by simp⟩
  cases unit with
  | joined value =>
    cases other with
    | joined otherValue => simpa [ArgumentUnit.args] using hsame
    | spaced name otherValue =>
      obtain ⟨rfl, -⟩ := List.cons.inj hsame
      exact absurd (hjoined value) (not_joined_of_name hshort hother)
    | plain arg =>
      obtain ⟨rfl, -⟩ := List.cons.inj hsame
      exact absurd (hjoined value) hother.1
  | spaced name value =>
    cases other with
    | joined otherValue =>
      obtain ⟨rfl, -⟩ := List.cons.inj hsame
      exact absurd (hjoined otherValue) (not_joined_of_name hshort hunit)
    | spaced otherName otherValue => simpa [ArgumentUnit.args, and_assoc] using hsame
    | plain arg =>
      obtain ⟨rfl, -⟩ := List.cons.inj hsame
      exact absurd hunit (not_or.mpr hother.2)
  | plain arg =>
    cases other with
    | joined otherValue =>
      obtain ⟨rfl, -⟩ := List.cons.inj hsame
      exact absurd (hjoined otherValue) hunit.1
    | spaced name otherValue =>
      obtain ⟨rfl, -⟩ := List.cons.inj hsame
      exact absurd hother (not_or.mpr hunit.2)
    | plain otherArg => simpa [ArgumentUnit.args] using hsame

/-- Every unit has an argument. -/
theorem ArgumentUnit.args_ne_nil (long : Text) (unit : ArgumentUnit) : unit.args long ≠ [] := by
  cases unit <;> simp [ArgumentUnit.args]

/-- Arguments split into units in no more than one way. -/
theorem Splits.unique (hshort : ¬ long ++ ['='] <+: short) (hunits : Splits short long units args)
    (hothers : Splits short long others args) : others = units := by
  induction units generalizing others args with
  | nil =>
    obtain rfl := hunits.args_eq
    cases others with
    | nil => rfl
    | cons other others =>
      have hnil := List.flatMap_eq_nil_iff.mp hothers.args_eq other List.mem_cons_self
      exact absurd hnil (other.args_ne_nil long)
  | cons unit units ih =>
    obtain rfl := hunits.args_eq
    cases others with
    | nil =>
      have hnil := List.flatMap_eq_nil_iff.mp hothers.args_eq.symm unit List.mem_cons_self
      exact absurd hnil (unit.args_ne_nil long)
    | cons other others =>
      have hsame := hothers.args_eq
      rw [List.flatMap_cons, List.flatMap_cons] at hsame
      obtain ⟨rfl, hrest⟩ := ArgumentUnit.args_append_injective hshort
        (hothers.fits other List.mem_cons_self) (hunits.fits unit List.mem_cons_self) hsame
      have htail : others = units :=
        ih ⟨rfl, fun unit hunit => hunits.fits unit (List.mem_cons_of_mem _ hunit)⟩
          ⟨hrest, fun unit hunit => hothers.fits unit (List.mem_cons_of_mem _ hunit)⟩
      rw [htail]

/-! ### Taking the option out -/

/-- A unit that has a value gives it unless a later one does, and a plain argument stays in front of
those that stay behind it. -/
theorem takeOption_unit (hshort : ¬ long ++ ['='] <+: short) (hunit : unit.Fits short long)
    (rest : List Text) :
    takeOption short long (unit.args long ++ rest) =
      (takeOption short long rest).map fun taken =>
        (taken.1.or unit.value?, unit.plain?.toList ++ taken.2) := by
  rw [takeOption.eq_def]
  cases unit with
  | joined value =>
    have hdrop : (long ++ ['=']).isPrefixOf? (long ++ '=' :: value) = some value :=
      List.isPrefixOf?_eq_some_iff_append_eq.mpr (by simp)
    simp only [ArgumentUnit.args, List.cons_append, List.nil_append, hdrop]
    cases takeOption short long rest <;> rfl
  | spaced name value =>
    have hname : name = long ∨ name = short := hunit
    have hdrop := isPrefixOf?_eq_none_iff.mpr (not_joined_of_name hshort hname)
    simp only [ArgumentUnit.args, List.cons_append, List.nil_append, hdrop, ← Bool.decide_or,
      decide_eq_true_eq, if_pos hname]
    cases takeOption short long rest <;> rfl
  | plain arg =>
    obtain ⟨hjoined, hname⟩ := hunit
    have hdrop := isPrefixOf?_eq_none_iff.mpr hjoined
    simp only [ArgumentUnit.args, List.cons_append, List.nil_append, hdrop, ← Bool.decide_or,
      decide_eq_true_eq, if_neg (not_or.mpr hname)]
    cases takeOption short long rest with
    | error failure => rfl
    | ok taken =>
      obtain ⟨later, others⟩ := taken
      cases later <;> rfl

/-- One unit in front gives the value only if none behind it does. -/
theorem lastValue_cons (unit : ArgumentUnit) (units : List ArgumentUnit) :
    lastValue (unit :: units) = (lastValue units).or unit.value? := by
  unfold lastValue
  cases hvalue : unit.value? with
  | none => rw [List.filterMap_cons_none hvalue, Option.or_none]
  | some value =>
    rw [List.filterMap_cons_some hvalue, List.getLast?_cons]
    cases (units.filterMap value?).getLast? <;> rfl

/-- One unit in front leaves its argument in front. -/
theorem plains_cons (unit : ArgumentUnit) (units : List ArgumentUnit) :
    plains (unit :: units) = unit.plain?.toList ++ plains units := by
  unfold plains
  cases unit <;> rfl

/-- Taking the option out goes from unit to unit, whatever is behind them. -/
theorem takeOption_append (hshort : ¬ long ++ ['='] <+: short)
    (hunits : ∀ unit ∈ units, unit.Fits short long) (rest : List Text) :
    takeOption short long (units.flatMap (ArgumentUnit.args long) ++ rest) =
      (takeOption short long rest).map fun taken =>
        (taken.1.or (lastValue units), plains units ++ taken.2) := by
  induction units with
  | nil =>
    simp only [List.flatMap_nil, List.nil_append, lastValue, plains, List.filterMap_nil,
      List.getLast?_nil, Option.or_none]
    cases takeOption short long rest <;> rfl
  | cons unit units ih =>
    have hunit := hunits unit List.mem_cons_self
    have htail := ih fun other hother => hunits other (List.mem_cons_of_mem _ hother)
    rw [List.flatMap_cons, List.append_assoc, takeOption_unit hshort hunit, htail]
    cases takeOption short long rest with
    | error failure => rfl
    | ok taken =>
      simp only [Except.map, lastValue_cons, plains_cons, Option.or_assoc, List.append_assoc]

/-- Arguments are units with nothing behind them or with a name of the option. -/
theorem exists_units (short long : Text) (args : List Text) :
    ∃ (units : List ArgumentUnit) (rest : List Text), (∀ unit ∈ units, unit.Fits short long) ∧
      units.flatMap (ArgumentUnit.args long) ++ rest = args ∧
      (rest = [] ∨ ∃ name, (name = long ∨ name = short) ∧ rest = [name]) := by
  fun_induction takeOption short long args with
  | case1 => exact ⟨[], [], by simp, rfl, .inl rfl⟩
  | case2 arg behind value hdrop ih =>
    obtain ⟨units, rest, hunits, rfl, hrest⟩ := ih
    have harg : arg = long ++ '=' :: value := by
      simpa using (List.isPrefixOf?_eq_some_iff_append_eq.mp hdrop).symm
    have hunit : (joined value).Fits short long := trivial
    exact ⟨joined value :: units, rest, List.forall_mem_cons.mpr ⟨hunit, hunits⟩,
      by simp [ArgumentUnit.args, harg], hrest⟩
  | case3 arg hdrop hname =>
    exact ⟨[], [arg], by simp, rfl, .inr ⟨arg, by simpa using hname, rfl⟩⟩
  | case4 arg hdrop hname value behind ih =>
    obtain ⟨units, rest, hunits, rfl, hrest⟩ := ih
    have hunit : (spaced arg value).Fits short long := by
      rw [Fits]
      simpa using hname
    exact ⟨spaced arg value :: units, rest, List.forall_mem_cons.mpr ⟨hunit, hunits⟩, rfl, hrest⟩
  | case5 arg behind hdrop hname ih =>
    obtain ⟨units, rest, hunits, rfl, hrest⟩ := ih
    have hunit : (plain arg).Fits short long :=
      ⟨isPrefixOf?_eq_none_iff.mp hdrop, by simpa using hname⟩
    exact ⟨plain arg :: units, rest, List.forall_mem_cons.mpr ⟨hunit, hunits⟩, rfl, hrest⟩

/-- A name of the option with nothing behind it has no value. -/
theorem takeOption_name (hshort : ¬ long ++ ['='] <+: short) (hname : name = long ∨ name = short) :
    takeOption short long [name] = .error (.missingValue name) := by
  have hdrop := isPrefixOf?_eq_none_iff.mpr (not_joined_of_name hshort hname)
  rw [takeOption.eq_def]
  simp only [hdrop, ← Bool.decide_or, decide_eq_true_eq, if_pos hname]

/-- Out of units the option is taken with the last value, and the plain arguments stay. -/
theorem Splits.takeOption_eq (hshort : ¬ long ++ ['='] <+: short)
    (hunits : Splits short long units args) :
    takeOption short long args = .ok (lastValue units, plains units) := by
  have happend := takeOption_append hshort hunits.fits []
  rw [List.append_nil, hunits.args_eq] at happend
  rw [happend, takeOption.eq_def]
  simp [Except.map]

/-- Taking the option out fails exactly if a name of it stands behind the last unit. -/
theorem takeOption_eq_error_iff (hshort : ¬ long ++ ['='] <+: short) {failure : Failure} :
    takeOption short long args = .error failure ↔
      ∃ (units : List ArgumentUnit) (name : Text),
        (∀ unit ∈ units, unit.Fits short long) ∧ (name = long ∨ name = short) ∧
        args = units.flatMap (ArgumentUnit.args long) ++ [name] ∧
        failure = .missingValue name := by
  constructor
  · intro herror
    obtain ⟨units, rest, hunits, rfl, hrest⟩ := exists_units short long args
    rcases hrest with rfl | ⟨name, hname, rfl⟩
    · rw [(Splits.mk (List.append_nil _).symm hunits).takeOption_eq hshort] at herror
      cases herror
    · rw [takeOption_append hshort hunits, takeOption_name hshort hname] at herror
      cases herror
      exact ⟨units, name, hunits, hname, rfl, rfl⟩
  · rintro ⟨units, name, hunits, hname, rfl, rfl⟩
    rw [takeOption_append hshort hunits, takeOption_name hshort hname]
    rfl

/-- Arguments that are all plain give no value. -/
theorem lastValue_map_plain (args : List Text) : lastValue (args.map plain) = none := by
  simp [lastValue, List.filterMap_map, Function.comp_def, value?]

/-- Arguments that are all plain are left. -/
theorem plains_map_plain (args : List Text) : plains (args.map plain) = args := by
  simp [plains, List.filterMap_map, Function.comp_def, plain?]

/-- Plain arguments are units of their own. -/
theorem splits_plains (hunits : Splits short long units args) :
    Splits short long ((plains units).map plain) (plains units) := by
  constructor
  case args_eq => simp [List.flatMap_map, ArgumentUnit.args, List.flatMap_singleton']
  case fits =>
    intro unit hunit
    obtain ⟨arg, harg, rfl⟩ := List.mem_map.mp hunit
    obtain ⟨other, hother, hplain⟩ := List.mem_filterMap.mp harg
    have hfits := hunits.fits other hother
    cases other with
    | plain held =>
      cases hplain
      exact hfits
    | joined | spaced => cases hplain

/-- Where no value is missing, arguments split into units in exactly one way.  The option is taken
out with the value of the last unit that has one, the plain arguments are left in their order, none
of them is the option, and taking it out again finds no value and leaves them as they are. -/
theorem takeOption_splits (hshort : ¬ long ++ ['='] <+: short)
    (hvalued : ∀ name, takeOption short long args ≠ .error (.missingValue name)) :
    ∃ units, Splits short long units args ∧
      (∀ others, Splits short long others args → others = units) ∧
      takeOption short long args = .ok (lastValue units, plains units) ∧
      (∀ arg ∈ plains units, arg ≠ long ∧ arg ≠ short ∧ ¬ long ++ ['='] <+: arg) ∧
      takeOption short long (plains units) = .ok (none, plains units) := by
  obtain ⟨units, rest, hfits, hargs, hrest⟩ := exists_units short long args
  have hend : rest = [] := by
    rcases hrest with hnil | ⟨name, hname, rfl⟩
    · exact hnil
    · have hmissing : takeOption short long args = .error (.missingValue name) :=
        (takeOption_eq_error_iff hshort).mpr ⟨units, name, hfits, hname, hargs.symm, rfl⟩
      exact absurd hmissing (hvalued name)
  rw [hend, List.append_nil] at hargs
  have hunits : Splits short long units args := ⟨hargs, hfits⟩
  refine ⟨units, hunits, fun others hothers => hunits.unique hshort hothers,
    hunits.takeOption_eq hshort, fun arg harg => ?_, ?_⟩
  · obtain ⟨hjoined, hlong, hshort⟩ :=
      (splits_plains hunits).fits (plain arg) (List.mem_map_of_mem harg)
    exact ⟨hlong, hshort, hjoined⟩
  · have hleft := (splits_plains hunits).takeOption_eq hshort
    rwa [lastValue_map_plain, plains_map_plain] at hleft

/-- A value that looks like the option is still a value, and the last one counts. -/
theorem takeOption_splits_value_like_option :
    let long := "--lang".toList
    let args := ["--lang=ru".toList, "word".toList, "-l".toList, "--lang=uk".toList, "-s".toList]
    ¬ long ++ ['='] <+: "-l".toList ∧
      (∀ name, takeOption "-l".toList long args ≠ .error (.missingValue name)) ∧
      ∃ units, units = [.joined "ru".toList, .plain "word".toList,
          .spaced "-l".toList "--lang=uk".toList, .plain "-s".toList] ∧
        Splits "-l".toList long units args ∧
        takeOption "-l".toList long args =
          .ok (some "--lang=uk".toList, ["word".toList, "-s".toList]) ∧
        takeOption "-l".toList long ["word".toList, "-s".toList] =
          .ok (none, ["word".toList, "-s".toList]) := by
  intro long args
  have hshort : ¬ long ++ ['='] <+: "-l".toList := by decide
  have htaken : takeOption "-l".toList long args =
      .ok (some "--lang=uk".toList, ["word".toList, "-s".toList]) := by decide
  have hvalued : ∀ name, takeOption "-l".toList long args ≠ .error (.missingValue name) := by
    intro name hmissing
    rw [htaken] at hmissing
    cases hmissing
  have hsplits : Splits "-l".toList long [.joined "ru".toList, .plain "word".toList,
      .spaced "-l".toList "--lang=uk".toList, .plain "-s".toList] args := ⟨by decide, by decide⟩
  obtain ⟨units, -, hunique, htakes, -, hagain⟩ := takeOption_splits hshort hvalued
  obtain rfl := hunique _ hsplits
  exact ⟨hshort, hvalued, _, rfl, hsplits, htaken, hagain⟩

end Units

end Orthography.CommandLine
