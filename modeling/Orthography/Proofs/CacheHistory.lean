import Orthography.Proofs.CacheLookup

/-!
# What a cache remembers

A cache has a history: the results that were stored since it was last cleared.  It holds for a word
the result of the latest store under that word, unless a word with the same slot was stored since.
This is so after every use of a cache (`Reflects.perform`), so it is so after every run of a new one
(`get?_run_iff_holds`); words that are empty or too long are neither held nor drop what is.
-/

namespace Orthography.ResultCache

variable {α : Type}

/-- What can be done with a cache. -/
inductive Use (α : Type) where
  | insert (word : Text) (result : α)
  | get (word : Text)
  /-- Looks for a word, and computes its result if there is none. -/
  | getOrInsert (word : Text) (computed : α)
  | clear

/-- A cache after one use. -/
def perform (cache : ResultCache α) : Use α → ResultCache α
  | .insert word result => cache.insert word result
  | .get _ => cache
  | .getOrInsert word computed => (cache.getOrInsert word fun _ => computed).1
  | .clear => cache.clear

/-- A cache after some uses, the first of them first. -/
def run (cache : ResultCache α) (uses : List (Use α)) : ResultCache α := uses.foldl perform cache

/-! ### Histories -/

/-- Storing a result for one word drops the result for another: it is stored, and has the same
slot. -/
def Displaces (slots : Nat) (other word : Text) : Prop :=
  (1 ≤ other.length ∧ other.length ≤ maxLength) ∧ hash slots other = hash slots word ∧ other ≠ word

/-- A history, with the latest store first, leaves a result for a word: the word can be stored, the
result is that of the latest store under it, and no word that displaces it was stored later. -/
structure Holds (slots : Nat) (history : List (Text × α)) (word : Text) (result : α) : Prop where
  length : 1 ≤ word.length ∧ word.length ≤ maxLength
  latest : ∃ later earlier, history = later ++ (word, result) :: earlier ∧
    ∀ store ∈ later, store.1 ≠ word ∧ ¬ Displaces slots store.1 word

open scoped Classical in
/-- A history after one more use; a computed result is stored if none was held. -/
noncomputable def record (slots : Nat) (history : List (Text × α)) : Use α → List (Text × α)
  | .insert word result => (word, result) :: history
  | .get _ => history
  | .getOrInsert word computed =>
    if ∃ held, Holds slots history word held then history else (word, computed) :: history
  | .clear => []

/-- The history of a new cache that has been used. -/
noncomputable def historyOf (slots : Nat) (uses : List (Use α)) : List (Text × α) :=
  uses.foldl (record slots) []

/-- The words that are stored are those of some characters, but not too many. -/
theorem stores_iff {word : Text} :
    stores word = true ↔ 1 ≤ word.length ∧ word.length ≤ maxLength := by
  simp [stores, Nat.one_le_iff_ne_zero]

/-- An empty history leaves no results. -/
theorem not_holds_nil {slots : Nat} {word : Text} {result : α} : ¬ Holds slots [] word result := by
  rintro ⟨-, later, earlier, hnil, -⟩
  simp at hnil

/-- What a history leaves for a word, by its latest store: the result stored, if it is under the
word, and otherwise what the history before it left, if the word is not displaced. -/
theorem holds_cons_iff {slots : Nat} {history : List (Text × α)} {other word : Text}
    {stored result : α} :
    Holds slots ((other, stored) :: history) word result ↔
      if other = word then (1 ≤ word.length ∧ word.length ≤ maxLength) ∧ stored = result
      else ¬ Displaces slots other word ∧ Holds slots history word result := by
  constructor
  · rintro ⟨hlength, later, earlier, hhistory, hlater⟩
    cases later with
    | nil =>
        obtain ⟨hstore, -⟩ := List.cons.inj hhistory
        obtain ⟨hword, hresult⟩ := Prod.mk.inj hstore
        rw [if_pos hword]
        exact ⟨hlength, hresult⟩
    | cons store later =>
        obtain ⟨rfl, hrest⟩ := List.cons.inj hhistory
        obtain ⟨⟨hother, hkeeps⟩, hlater⟩ := List.forall_mem_cons.mp hlater
        rw [if_neg hother]
        exact ⟨hkeeps, hlength, later, earlier, hrest, hlater⟩
  · intro hholds
    split at hholds
    · rename_i hword
      obtain ⟨hlength, rfl⟩ := hholds
      exact ⟨hlength, [], history, by rw [hword]; rfl, nofun⟩
    · rename_i hother
      obtain ⟨hkeeps, hlength, later, earlier, rfl, hlater⟩ := hholds
      exact ⟨hlength, (other, stored) :: later, earlier, rfl,
        List.forall_mem_cons.mpr ⟨⟨hother, hkeeps⟩, hlater⟩⟩

/-! ### Caches and their histories -/

/-- A cache finds for each word what a history leaves for it. -/
def Reflects (cache : ResultCache α) (history : List (Text × α)) : Prop :=
  ∀ word result, cache.get? word = some result ↔ Holds cache.capacity history word result

variable {cache : ResultCache α} {history : List (Text × α)}

/-- What is not found is computed, and stored. -/
theorem getOrInsert_eq (cache : ResultCache α) (word : Text) (compute : Unit → α) :
    cache.getOrInsert word compute =
      (if (cache.get? word).isSome then cache else cache.insert word (compute ()),
        (cache.get? word).getD (compute ()), (cache.get? word).isNone) := by
  unfold getOrInsert
  cases cache.get? word <;> rfl

/-- No use changes the number of slots. -/
theorem capacity_perform (cache : ResultCache α) (use : Use α) :
    (cache.perform use).capacity = cache.capacity := by
  have hinsert (word : Text) (result : α) :
      (cache.insert word result).capacity = cache.capacity := by
    unfold insert
    split <;> rfl
  cases use with
  | insert word result => exact hinsert word result
  | get word => rfl
  | getOrInsert word computed =>
      rw [perform, getOrInsert_eq]
      dsimp only
      split
      · rfl
      · exact hinsert word computed
  | clear => rfl

/-- Two words have one slot if they have one hash. -/
theorem slot_eq_iff {word other : Text} :
    cache.slot word = cache.slot other ↔ hash cache.capacity word = hash cache.capacity other :=
  Fin.ext_iff

/-- A cache without results reflects an empty history. -/
theorem reflects_nil (hnone : ∀ word, cache.get? word = none) : cache.Reflects [] := by
  intro word result
  rw [hnone word]
  exact iff_of_false nofun not_holds_nil

/-- A store is reflected, whether the word can be stored or not. -/
theorem Reflects.insert (hreflects : cache.Reflects history) (word : Text) (result : α) :
    (cache.insert word result).Reflects ((word, result) :: history) := by
  intro other found
  have hcapacity : (cache.insert word result).capacity = cache.capacity :=
    cache.capacity_perform (.insert word result)
  rw [hcapacity, holds_cons_iff]
  by_cases hstores : stores word = true
  · have hlength := stores_iff.mp hstores
    rw [get?_insert hstores]
    by_cases hword : word = other
    · subst hword
      simp [hlength]
    · by_cases hslot : cache.slot other = cache.slot word
      · have hdisplaces : Displaces cache.capacity word other :=
          ⟨hlength, (slot_eq_iff.mp hslot).symm, hword⟩
        simp [hslot, hword, Ne.symm hword, hdisplaces]
      · have hkeeps : ¬ Displaces cache.capacity word other := fun hdisplaces =>
          hslot (slot_eq_iff.mpr hdisplaces.2.1.symm)
        rw [if_neg hslot, if_neg hword, hreflects other found, and_iff_right hkeeps]
  · -- such a word stands in the history, but it is neither held there nor does it displace another
    rw [insert_of_not_stores hstores, hreflects other found]
    rw [stores_iff] at hstores
    by_cases hword : word = other
    · subst hword
      rw [if_pos rfl]
      exact iff_of_false (fun hholds => hstores hholds.length) fun hheld => hstores hheld.1
    · rw [if_neg hword, and_iff_right fun hdisplaces => hstores hdisplaces.1]

/-- Whatever is done with a cache that reflects its history, it goes on to do so. -/
theorem Reflects.perform (hreflects : cache.Reflects history) (use : Use α) :
    (cache.perform use).Reflects (record cache.capacity history use) := by
  cases use with
  | insert word result => exact hreflects.insert word result
  | get word => exact hreflects
  | getOrInsert word computed =>
      have hfound : (∃ held, Holds cache.capacity history word held) ↔
          (cache.get? word).isSome = true := by
        simp only [Option.isSome_iff_exists, hreflects word]
      rw [ResultCache.perform, getOrInsert_eq, record]
      dsimp only
      by_cases hsome : (cache.get? word).isSome = true
      · rw [if_pos hsome, if_pos (hfound.mpr hsome)]
        exact hreflects
      · rw [if_neg hsome, if_neg fun hheld => hsome (hfound.mp hheld)]
        exact hreflects.insert word computed
  | clear => exact reflects_nil (get?_clear cache)

/-- A run keeps the number of slots. -/
theorem capacity_run (cache : ResultCache α) (uses : List (Use α)) :
    (cache.run uses).capacity = cache.capacity := by
  induction uses generalizing cache with
  | nil => rfl
  | cons use uses ih => exact (ih (cache.perform use)).trans (cache.capacity_perform use)

/-- A cache that reflects its history goes on to do so through every run. -/
theorem Reflects.run (hreflects : cache.Reflects history) (uses : List (Use α)) :
    (cache.run uses).Reflects (uses.foldl (record cache.capacity) history) := by
  induction uses generalizing cache history with
  | nil => exact hreflects
  | cons use uses ih =>
      have hnext := ih (hreflects.perform use)
      rwa [capacity_perform] at hnext

/-- After any run of a new cache, a word is found with the result that the history of the run leaves
for it, and with no other; every hash is the number of a slot.  A result that is not found is
computed, and stored. -/
theorem get?_run_iff_holds (size : Nat) (uses : List (Use α)) :
    let cache : ResultCache α := (ofSize size).run uses
    cache.capacity = slotCount (baseOrder + min size maxSize) ∧
      (∀ word, (cache.slot word).val = hash cache.capacity word ∧
        hash cache.capacity word < cache.capacity) ∧
      (∀ word result, cache.get? word = some result ↔
        Holds cache.capacity (historyOf cache.capacity uses) word result) ∧
      ∀ word compute, cache.getOrInsert word compute =
        (if (cache.get? word).isSome then cache else cache.insert word (compute ()),
          (cache.get? word).getD (compute ()), (cache.get? word).isNone) := by
  intro cache
  have hcapacity : cache.capacity = (ofSize size : ResultCache α).capacity :=
    capacity_run (ofSize size) uses
  have hreflects : cache.Reflects (historyOf cache.capacity uses) := by
    rw [historyOf, hcapacity]
    exact (reflects_nil (get?_ofSize size)).run uses
  exact ⟨hcapacity, fun word => ⟨rfl, (cache.slot word).isLt⟩, hreflects, cache.getOrInsert_eq⟩

end Orthography.ResultCache
