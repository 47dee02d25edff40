/-!
# The journal

Reading files and deriving forms notes what was skipped or dropped.  A logged value carries its
records with it, in the order in which they were made; the value itself never depends on them
(`Logged.value_bind`).
-/

namespace Orthography

/-- How much a record matters, the most severe first. -/
inductive Severity where
  | error
  | warn
  | info
  | debug
  | trace
  deriving DecidableEq, Repr

namespace Severity

/-- The place of a severity in the order. -/
def rank : Severity → Nat
  | error => 0
  | warn => 1
  | info => 2
  | debug => 3
  | trace => 4

/-- The name of a severity in the journal. -/
def name : Severity → String
  | error => "ERROR"
  | warn => "WARN"
  | info => "INFO"
  | debug => "DEBUG"
  | trace => "TRACE"

end Severity

/-- One record of the journal. -/
structure Record where
  severity : Severity
  text : String
  deriving DecidableEq, Repr

/-- Whether a record is kept when only records up to a severity are asked for. -/
def Record.reaches (record : Record) (severity : Severity) : Bool :=
  record.severity.rank ≤ severity.rank

/-- A value and the records made on the way to it. -/
structure Logged (α : Type) where
  value : α
  records : List Record

namespace Logged

/-- Goes on from a logged value; the records follow each other. -/
def bind {α β : Type} (first : Logged α) (next : α → Logged β) : Logged β :=
  let second := next first.value
  ⟨second.value, first.records ++ second.records⟩

instance : Monad Logged where
  pure value := ⟨value, []⟩
  bind := bind

/-- Makes one record. -/
def note (severity : Severity) (text : String) : Logged Unit := ⟨(), [⟨severity, text⟩]⟩

/-- A value with the records of a list. -/
def noting {α : Type} (records : List Record) (value : α) : Logged α := ⟨value, records⟩

@[simp] theorem value_pure {α : Type} (value : α) : (pure value : Logged α).value = value := rfl

@[simp] theorem value_bind {α β : Type} (first : Logged α) (next : α → Logged β) :
    (first >>= next).value = (next first.value).value := rfl

@[simp] theorem value_map {α β : Type} (f : α → β) (logged : Logged α) :
    (f <$> logged).value = f logged.value := rfl

@[simp] theorem value_noting {α : Type} (records : List Record) (value : α) :
    (noting records value).value = value := rfl

/-- What a list of logged results found, with the records of all of them. -/
def gather {α : Type} (results : List (Logged (Option α))) : Logged (List α) :=
  ⟨results.filterMap (·.value), results.flatMap (·.records)⟩

@[simp] theorem value_gather {α : Type} (results : List (Logged (Option α))) :
    (gather results).value = results.filterMap (·.value) := rfl

/-- What is gathered from numbered items does not depend on the numbers, if what each gives does
not. -/
theorem value_gather_zipIdx {α β : Type} {read : α × Nat → Logged (Option β)}
    {read? : α → Option β} (hread : ∀ numbered, (read numbered).value = read? numbered.1)
    (number : Nat) (items : List α) :
    (gather ((items.zipIdx number).map read)).value = items.filterMap read? := by
  rw [value_gather, List.filterMap_map]
  induction items generalizing number with
  | nil => rfl
  | cons item items ih =>
    rw [List.zipIdx_cons, List.filterMap_cons, List.filterMap_cons, ih]
    simp only [Function.comp_apply, hread]

/-- Whether some member passes a test, after the records of a list, the last of them first. -/
def anyAfter {α : Type} (test : α → Logged Bool) (earlier : List Record) : List α → Logged Bool
  | [] => ⟨false, earlier.reverse⟩
  | x :: rest =>
    let result := test x
    let records := result.records.reverseAux earlier
    if result.value then ⟨true, records.reverse⟩ else anyAfter test records rest

/-- Whether some member passes a test; the members behind the first that does are not tested. -/
def anyOf {α : Type} (test : α → Logged Bool) (members : List α) : Logged Bool :=
  anyAfter test [] members

/-- Whether all members pass a test; the members behind the first that does not are not tested. -/
def allOf {α : Type} (test : α → Logged Bool) (members : List α) : Logged Bool :=
  (!·) <$> anyOf (fun x => (!·) <$> test x) members

/-- A second test, made only if the first does not pass. -/
def orElse (first : Logged Bool) (second : Unit → Logged Bool) : Logged Bool :=
  if first.value then first else first >>= fun _ => second ()

theorem value_anyAfter {α : Type} (test : α → Logged Bool) (earlier : List Record)
    (members : List α) :
    (anyAfter test earlier members).value = members.any fun x => (test x).value := by
  induction members generalizing earlier with
  | nil => rfl
  | cons x rest ih =>
    simp only [anyAfter, List.any_cons]
    cases passed : (test x).value <;> simp [ih]

@[simp] theorem value_anyOf {α : Type} (test : α → Logged Bool) (members : List α) :
    (anyOf test members).value = members.any fun x => (test x).value :=
  value_anyAfter test [] members

@[simp] theorem value_allOf {α : Type} (test : α → Logged Bool) (members : List α) :
    (allOf test members).value = members.all fun x => (test x).value := by
  simp [allOf, List.not_any_eq_all_not]

@[simp] theorem value_orElse (first : Logged Bool) (second : Unit → Logged Bool) :
    (orElse first second).value = (first.value || (second ()).value) := by
  unfold orElse
  cases passed : first.value <;> simp [passed]

end Logged

end Orthography
