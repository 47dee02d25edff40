import Orthography.Text.Order

/-!
# Tables

A table assigns values to words, at most one to each.  Its entries are kept in the order of their
keys, so two tables with the same assignments are equal (`Table.ext_get?`).
-/

namespace Orthography

/-- Words with values, in the order of the words. -/
structure Table (β : Type) where
  entries : List (Text × β)
  sorted : entries.Pairwise fun a b => a.1.before b.1 = true

namespace Table

variable {β : Type}

/-- Tables with the same entries are equal. -/
@[ext] theorem ext {a b : Table β} (same : a.entries = b.entries) : a = b := by
  cases a; cases b; simp_all

instance [DecidableEq β] : DecidableEq (Table β) := fun a b =>
  decidable_of_iff (a.entries = b.entries) ⟨ext, fun h => h ▸ rfl⟩

/-- The table without entries. -/
def empty : Table β := ⟨[], List.Pairwise.nil⟩

instance : EmptyCollection (Table β) := ⟨empty⟩

instance : Inhabited (Table β) := ⟨empty⟩

/-- Puts an entry at its place, in the stead of an earlier one with the same key. -/
def insertEntry (key : Text) (value : β) : List (Text × β) → List (Text × β)
  | [] => [(key, value)]
  | held :: rest =>
    if key = held.1 then (key, value) :: rest
    else if key.before held.1 then (key, value) :: held :: rest
    else held :: insertEntry key value rest

/-- Insertion adds the new entry and keeps the others. -/
theorem mem_of_mem_insertEntry {key : Text} {value : β} {entries : List (Text × β)}
    {entry : Text × β} (h : entry ∈ insertEntry key value entries) :
    entry = (key, value) ∨ entry ∈ entries := by
  induction entries with
  | nil => simpa [insertEntry] using h
  | cons held rest ih =>
    simp only [insertEntry] at h
    split at h
    · exact (List.mem_cons.1 h).imp id (List.mem_cons_of_mem _)
    · split at h
      · exact List.mem_cons.1 h
      · rcases List.mem_cons.1 h with rfl | later
        · exact .inr (List.mem_cons_self ..)
        · exact (ih later).imp id (List.mem_cons_of_mem _)

/-- Insertion keeps the order of the keys. -/
theorem sorted_insertEntry (key : Text) (value : β) {entries : List (Text × β)}
    (sorted : entries.Pairwise fun a b => a.1.before b.1 = true) :
    (insertEntry key value entries).Pairwise fun a b => a.1.before b.1 = true := by
  induction entries with
  | nil => simp [insertEntry]
  | cons held rest ih =>
    obtain ⟨ahead, tail⟩ := List.pairwise_cons.1 sorted
    simp only [insertEntry]
    split
    · rename_i same
      exact List.pairwise_cons.2 ⟨fun entry h => by simpa [same] using ahead entry h, tail⟩
    · rename_i different
      split
      · rename_i first
        refine List.pairwise_cons.2 ⟨fun entry h => ?_, sorted⟩
        rcases List.mem_cons.1 h with rfl | later
        · exact first
        · exact Text.before_trans first (ahead entry later)
      · rename_i notFirst
        refine List.pairwise_cons.2 ⟨fun entry h => ?_, ih tail⟩
        rcases mem_of_mem_insertEntry h with rfl | old
        · exact Text.before_of_ne different (by simpa using notFirst)
        · exact ahead entry old

/-- The table with `value` assigned to `key`. -/
def insert (table : Table β) (key : Text) (value : β) : Table β :=
  ⟨insertEntry key value table.entries, sorted_insertEntry key value table.sorted⟩

/-- The table with every value replaced by one that depends on its key. -/
def map {γ : Type} (f : Text → β → γ) (table : Table β) : Table γ :=
  ⟨table.entries.map fun entry => (entry.1, f entry.1 entry.2),
    List.pairwise_map.2 table.sorted⟩

/-- The value assigned to a key. -/
def get? (table : Table β) (key : Text) : Option β :=
  (table.entries.find? (·.1 = key)).map (·.2)

/-- The keys, in order. -/
def keys (table : Table β) : List Text := table.entries.map (·.1)

/-- The number of keys. -/
def size (table : Table β) : Nat := table.entries.length

theorem find?_insertEntry (key other : Text) (value : β) (entries : List (Text × β)) :
    (insertEntry key value entries).find? (·.1 = other) =
      if other = key then some (key, value) else entries.find? (·.1 = other) := by
  induction entries with
  | nil => by_cases same : key = other <;> simp [insertEntry, same, eq_comm]
  | cons held rest ih =>
    simp only [insertEntry]
    split
    · rename_i hit
      by_cases same : other = key
      · simp [same]
      · simp [Ne.symm same, same, ← hit]
    · rename_i miss
      split
      · by_cases same : other = key
        · simp [same]
        · simp [Ne.symm same, same]
      · by_cases same : other = key
        · subst same
          simp [Ne.symm miss, ih]
        · simp [List.find?_cons, ih, same]

/-- After an assignment the key has the new value and every other key has its old one. -/
@[simp] theorem get?_insert (table : Table β) (key other : Text) (value : β) :
    (table.insert key value).get? other = if other = key then some value else table.get? other := by
  simp only [get?, insert, find?_insertEntry]
  split <;> rfl

@[simp] theorem get?_empty (key : Text) : (∅ : Table β).get? key = none := rfl

@[simp] theorem get?_map {γ : Type} (f : Text → β → γ) (table : Table β) (key : Text) :
    (table.map f).get? key = (table.get? key).map (f key) := by
  obtain ⟨entries, sorted⟩ := table
  simp only [get?, map]
  clear sorted
  induction entries with
  | nil => rfl
  | cons entry rest ih =>
    by_cases same : entry.1 = key
    · simp [same]
    · simpa [List.find?_cons, same] using ih

/-- The keys are exactly the words with a value. -/
theorem mem_keys_iff {table : Table β} {key : Text} :
    key ∈ table.keys ↔ (table.get? key).isSome = true := by
  simp only [keys, get?, Option.isSome_map, List.find?_isSome, List.mem_map, decide_eq_true_eq]

/-! ### Many entries at once -/

/-- Whether the key of an entry does not come after that of another. -/
def precedes (a b : Text × β) : Bool := !b.1.before a.1

theorem precedes_trans (a b c : Text × β) (first : precedes a b = true)
    (second : precedes b c = true) : precedes a c = true := by
  simp only [precedes, Bool.not_eq_true'] at first second ⊢
  by_cases same : c.1 = b.1
  · rw [same]
    exact first
  · have ahead : b.1.before c.1 = true := Text.before_of_ne same second
    cases back : c.1.before a.1 with
    | false => rfl
    | true =>
      have cycle : b.1.before a.1 = true := Text.before_trans ahead back
      exact absurd cycle (by simp [first])

theorem precedes_total (a b : Text × β) : (precedes a b || precedes b a) = true := by
  cases ahead : b.1.before a.1 with
  | false => simp [precedes, ahead]
  | true => simp [precedes, Text.before_asymm ahead]

/-- Entries in the order of their keys; those with the same key keep their order. -/
def sortEntries (entries : List (Text × β)) : List (Text × β) := entries.mergeSort precedes

/-- The first entry with a key is the same after sorting. -/
theorem find?_sortEntries (key : Text) (entries : List (Text × β)) :
    (sortEntries entries).find? (·.1 = key) = entries.find? (·.1 = key) := by
  let hasKey (entry : Text × β) : Bool := entry.1 = key
  have alike : (entries.filter hasKey).Pairwise fun a b => precedes a b = true := by
    refine List.Pairwise.imp_of_mem (R := fun _ _ => True) (fun {a b} hasA hasB _ => ?_)
      (List.pairwise_of_forall fun _ _ => trivial)
    have keyA : a.1 = key := by simpa [hasKey] using (List.mem_filter.1 hasA).2
    have keyB : b.1 = key := by simpa [hasKey] using (List.mem_filter.1 hasB).2
    simp [precedes, keyA, keyB]
  have kept : (entries.filter hasKey).Sublist (sortEntries entries) :=
    List.sublist_mergeSort precedes_trans precedes_total alike List.filter_sublist
  have inside : (entries.filter hasKey).Sublist ((sortEntries entries).filter hasKey) := by
    simpa using kept.filter hasKey
  have size : (entries.filter hasKey).length = ((sortEntries entries).filter hasKey).length :=
    ((List.mergeSort_perm entries precedes).filter hasKey).length_eq.symm
  have same := inside.eq_of_length size
  rw [← List.head?_filter, ← List.head?_filter]
  exact congrArg List.head? same.symm

/-- An entry and those behind it, without any that repeats the key before it. -/
def firstOfEach (entry : Text × β) : List (Text × β) → List (Text × β)
  | [] => [entry]
  | next :: rest =>
    if next.1 = entry.1 then firstOfEach entry rest else entry :: firstOfEach next rest

theorem mem_of_mem_firstOfEach {entry other : Text × β} {entries : List (Text × β)}
    (h : other ∈ firstOfEach entry entries) : other ∈ entry :: entries := by
  induction entries generalizing entry with
  | nil => exact h
  | cons next rest ih =>
    simp only [firstOfEach] at h
    split at h
    · rcases List.mem_cons.1 (ih h) with rfl | later
      · exact List.mem_cons_self ..
      · exact List.mem_cons_of_mem _ (List.mem_cons_of_mem _ later)
    · rcases List.mem_cons.1 h with rfl | later
      · exact List.mem_cons_self ..
      · exact List.mem_cons_of_mem _ (ih later)

theorem find?_firstOfEach (key : Text) (entry : Text × β) (entries : List (Text × β)) :
    (firstOfEach entry entries).find? (·.1 = key) =
      (entry :: entries).find? (·.1 = key) := by
  induction entries generalizing entry with
  | nil => rfl
  | cons next rest ih =>
    simp only [firstOfEach]
    split
    · rename_i same
      rw [ih]
      by_cases hit : entry.1 = key <;> simp [same, hit]
    · rw [List.find?_cons, List.find?_cons, ih]

/-- Where keys do not fall, leaving out repetitions makes them rise. -/
theorem sorted_firstOfEach {entry : Text × β} {entries : List (Text × β)}
    (sorted : (entry :: entries).Pairwise fun a b => precedes a b = true) :
    (firstOfEach entry entries).Pairwise fun a b => a.1.before b.1 = true := by
  induction entries generalizing entry with
  | nil => simp [firstOfEach]
  | cons next rest ih =>
    obtain ⟨ahead, tail⟩ := List.pairwise_cons.1 sorted
    simp only [firstOfEach]
    split
    · refine ih (List.pairwise_cons.2 ⟨fun other later => ?_, (List.pairwise_cons.1 tail).2⟩)
      exact ahead other (List.mem_cons_of_mem _ later)
    · rename_i different
      refine List.pairwise_cons.2 ⟨fun other later => ?_, ih tail⟩
      have first : entry.1.before next.1 = true :=
        Text.before_of_ne different (by simpa [precedes] using ahead next (List.mem_cons_self ..))
      rcases List.mem_cons.1 (mem_of_mem_firstOfEach later) with rfl | behind
      · exact first
      · have notAfter : other.1.before next.1 = false := by
          simpa [precedes] using (List.pairwise_cons.1 tail).1 other behind
        by_cases same : other.1 = next.1
        · rw [same]
          exact first
        · exact Text.before_trans first (Text.before_of_ne same notAfter)

/-- The first entry with each key, for entries in the order of their keys. -/
def firstEntries : List (Text × β) → List (Text × β)
  | [] => []
  | entry :: rest => firstOfEach entry rest

theorem find?_firstEntries (key : Text) (entries : List (Text × β)) :
    (firstEntries entries).find? (·.1 = key) = entries.find? (·.1 = key) := by
  cases entries with
  | nil => rfl
  | cons entry rest => exact find?_firstOfEach key entry rest

theorem sorted_firstEntries {entries : List (Text × β)}
    (sorted : entries.Pairwise fun a b => precedes a b = true) :
    (firstEntries entries).Pairwise fun a b => a.1.before b.1 = true := by
  cases entries with
  | nil => exact List.Pairwise.nil
  | cons entry rest => exact sorted_firstOfEach sorted

/-- The table with the given entries, of which a later one replaces an earlier one with the same
key. -/
def ofList (entries : List (Text × β)) : Table β :=
  ⟨firstEntries (sortEntries entries.reverse),
    sorted_firstEntries (List.pairwise_mergeSort precedes_trans precedes_total _)⟩

/-- The value of a key is the last that is given for it. -/
theorem get?_ofList (entries : List (Text × β)) (key : Text) :
    (ofList entries).get? key = (entries.reverse.find? (·.1 = key)).map (·.2) := by
  rw [get?, ofList, find?_firstEntries, find?_sortEntries]

end Table

/-- Adds a word to a list of words in order, unless it is there. -/
def insertWord (word : Text) : List Text → List Text
  | [] => [word]
  | other :: rest =>
    if word = other then other :: rest
    else if word.before other then word :: other :: rest
    else other :: insertWord word rest

/-- The words of a list in order, each once. -/
def sortedWords (words : List Text) : List Text :=
  words.foldl (fun sorted word => insertWord word sorted) []

/-- Insertion adds the word and nothing else. -/
theorem mem_insertWord {word other : Text} {words : List Text} :
    other ∈ insertWord word words ↔ other = word ∨ other ∈ words := by
  induction words with
  | nil => simp [insertWord]
  | cons held rest ih =>
    simp only [insertWord]
    split
    · rename_i same
      simp [same]
    · split
      · simp
      · simp only [List.mem_cons, ih]
        exact or_left_comm

end Orthography
