import Mathlib.Data.List.Perm.Basic
import Orthography.Table

/-!
# Tables and their assignments

A table is determined by what it assigns (`Table.ext_get?`), and a list of words in order by its
members (`eq_sortedWords_iff`).  Of several assignments to one key the last one counts
(`Table.get?_insertAll`).
-/

namespace Orthography

/-- Lists in the same strict order with the same members are equal. -/
theorem eq_of_pairwise_of_mem_iff {α : Type} (key : α → Text) {a b : List α}
    (ha : a.Pairwise fun x y => (key x).before (key y) = true)
    (hb : b.Pairwise fun x y => (key x).before (key y) = true)
    (hmem : ∀ x, x ∈ a ↔ x ∈ b) : a = b := by
  have hnodup {list : List α} (hlist : list.Pairwise fun x y => (key x).before (key y) = true) :
      list.Nodup := by
    refine hlist.imp ?_
    rintro x _ hbefore rfl
    simp at hbefore
  refine List.Perm.eq_of_pairwise ?_ ha hb
    ((List.perm_ext_iff_of_nodup (hnodup ha) (hnodup hb)).mpr hmem)
  intro x y _ _ hbefore hback
  rw [Text.before_asymm hbefore] at hback
  cases hback

/-! ### Words in order -/

section Words

variable {word : Text} {words : List Text}

/-- Insertion keeps words in order. -/
theorem pairwise_insertWord (word : Text)
    (hwords : words.Pairwise fun a b => a.before b = true) :
    (insertWord word words).Pairwise fun a b => a.before b = true := by
  induction words with
  | nil => exact List.pairwise_singleton _ _
  | cons other rest ih =>
      obtain ⟨hfirst, hrest⟩ := List.pairwise_cons.mp hwords
      unfold insertWord
      split
      · exact hwords
      · rename_i hother
        split
        · rename_i hbefore
          refine List.pairwise_cons.mpr ⟨fun later hlater => ?_, hwords⟩
          rcases List.mem_cons.mp hlater with rfl | hlater
          · exact hbefore
          · exact Text.before_trans hbefore (hfirst later hlater)
        · rename_i hbehind
          refine List.pairwise_cons.mpr ⟨fun later hlater => ?_, ih hrest⟩
          rcases mem_insertWord.mp hlater with rfl | hlater
          · exact Text.before_of_ne hother (by simpa using hbehind)
          · exact hfirst later hlater

/-- Words inserted one after the other into a list in order. -/
theorem foldl_insertWord (words sorted : List Text)
    (hsorted : sorted.Pairwise fun a b => a.before b = true) :
    (words.foldl (fun sorted word => insertWord word sorted) sorted).Pairwise
        (fun a b => a.before b = true) ∧
      ∀ word, word ∈ words.foldl (fun sorted word => insertWord word sorted) sorted ↔
        word ∈ words ∨ word ∈ sorted := by
  induction words generalizing sorted with
  | nil => exact ⟨hsorted, fun word => by simp⟩
  | cons first words ih =>
      obtain ⟨hordered, hmem⟩ := ih (insertWord first sorted) (pairwise_insertWord first hsorted)
      refine ⟨hordered, fun word => (hmem word).trans ?_⟩
      rw [mem_insertWord, List.mem_cons, or_left_comm, or_assoc]

/-- A list is the words of another in order exactly if it is in order and has the same members. -/
theorem eq_sortedWords_iff {sorted : List Text} :
    sorted = sortedWords words ↔
      (sorted.Pairwise fun a b => a.before b = true) ∧ ∀ word, word ∈ sorted ↔ word ∈ words := by
  obtain ⟨hordered, hmem⟩ := foldl_insertWord words [] .nil
  have hmember (word : Text) : word ∈ sortedWords words ↔ word ∈ words :=
    (hmem word).trans (or_iff_left List.not_mem_nil)
  constructor
  · rintro rfl
    exact ⟨hordered, hmember⟩
  · rintro ⟨hsorted, hsame⟩
    exact eq_of_pairwise_of_mem_iff id hsorted hordered fun word =>
      (hsame word).trans (hmember word).symm

end Words

namespace Table

variable {β : Type}

/-- Where keys do not repeat, every entry is found under its key. -/
theorem map_find?_eq_some_iff {entries : List (Text × β)} {key : Text} {value : β}
    (hkeys : (entries.map (·.1)).Nodup) :
    (entries.find? (·.1 = key)).map (·.2) = some value ↔ (key, value) ∈ entries := by
  induction entries with
  | nil => simp
  | cons first entries ih =>
      obtain ⟨held, other⟩ := first
      rw [List.map_cons, List.nodup_cons] at hkeys
      by_cases hkey : held = key
      · have hnone : (key, value) ∉ entries := fun hentry =>
          hkeys.1 (hkey ▸ List.mem_map_of_mem (f := (·.1)) hentry)
        simp [hkey, hnone, eq_comm]
      · have hfirst : (key, value) ≠ (held, other) := fun hsame =>
          hkey (congrArg Prod.fst hsame).symm
        rw [List.find?_cons_of_neg (by simpa using hkey), ih hkeys.2, List.mem_cons,
          or_iff_right hfirst]

/-- The keys of a table do not repeat. -/
theorem nodup_keys (table : Table β) : (table.entries.map (·.1)).Nodup := by
  rw [List.Nodup, List.pairwise_map]
  refine table.sorted.imp ?_
  intro a b hbefore hsame
  rw [hsame, Text.before_irrefl] at hbefore
  cases hbefore

/-- The entries of a table are its assignments. -/
theorem mem_entries_iff {table : Table β} {key : Text} {value : β} :
    (key, value) ∈ table.entries ↔ table.get? key = some value :=
  (map_find?_eq_some_iff table.nodup_keys).symm

/-- Tables with the same assignments are equal. -/
theorem ext_get? {a b : Table β} (hget : ∀ key, a.get? key = b.get? key) : a = b := by
  refine Table.ext (eq_of_pairwise_of_mem_iff Prod.fst a.sorted b.sorted ?_)
  rintro ⟨key, value⟩
  rw [mem_entries_iff, mem_entries_iff, hget]

/-- The table after some assignments, the first of them first. -/
def insertAll (table : Table β) (entries : List (Text × β)) : Table β :=
  entries.foldl (fun table entry => table.insert entry.1 entry.2) table

/-- The last assignment to a key counts. -/
theorem get?_insertAll (table : Table β) (entries : List (Text × β)) (key : Text) :
    (table.insertAll entries).get? key =
      ((entries.reverse.find? (·.1 = key)).map (·.2)).or (table.get? key) := by
  induction entries generalizing table with
  | nil => rfl
  | cons entry entries ih =>
      rw [insertAll, List.foldl_cons, ← insertAll, ih, get?_insert, List.reverse_cons,
        List.find?_append]
      by_cases hkey : entry.1 = key
      · cases entries.reverse.find? (·.1 = key) <;> simp [hkey]
      · cases entries.reverse.find? (·.1 = key) <;> simp [hkey, Ne.symm hkey]

/-- Making all assignments of a table, in any order, gives the table. -/
theorem insertAll_empty_of_perm {table : Table β} {entries : List (Text × β)}
    (hperm : entries.Perm table.entries) : (∅ : Table β).insertAll entries = table := by
  have hkeys : (entries.reverse.map (·.1)).Nodup :=
    ((entries.reverse_perm.trans hperm).map _).nodup_iff.mpr table.nodup_keys
  refine ext_get? fun key => ?_
  rw [get?_insertAll, get?_empty, Option.or_none]
  refine Option.ext fun value => ?_
  rw [map_find?_eq_some_iff hkeys, List.mem_reverse, hperm.mem_iff, mem_entries_iff]

end Table

end Orthography
