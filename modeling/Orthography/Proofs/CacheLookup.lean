import Orthography.ResultCache

/-!
# Looking up stored results

What a cache finds after each of its operations.  A word is found with the result last stored for it
unless the slot was emptied or given to another word since, so a cache can forget but never mistake
one word for another.
-/

namespace Orthography.ResultCache

variable {α : Type}

/-- What the slot of a word holds counts only if it is held for that word. -/
theorem get?_eq_some_iff {cache : ResultCache α} {word : Text} {result : α} :
    cache.get? word = some result ↔
      cache.slots.get (cache.slot word) = some (word, result) := by
  rw [get?]
  split
  · rename_i held kept hheld
    rw [hheld]
    by_cases hsame : held = word <;> simp [hsame]
  · rename_i hnone
    simp [hnone]

/-- A new cache finds nothing. -/
@[simp] theorem get?_ofSize (size : Nat) (word : Text) :
    (ofSize size : ResultCache α).get? word = none := by
  rw [Option.eq_none_iff_forall_ne_some]
  intro result hfound
  rw [get?_eq_some_iff] at hfound
  cases hfound.symm.trans (Vector.getElem_replicate _)

/-- An emptied cache finds nothing. -/
@[simp] theorem get?_clear (cache : ResultCache α) (word : Text) :
    cache.clear.get? word = none := by
  rw [Option.eq_none_iff_forall_ne_some]
  intro result hfound
  rw [get?_eq_some_iff] at hfound
  cases hfound.symm.trans (Vector.getElem_replicate _)

/-- Storing a result takes the slot of its word: what was held there for another word is lost, and
all other slots are as they were. -/
theorem get?_insert {word : Text} (hstores : stores word = true) (cache : ResultCache α)
    (result : α) (other : Text) :
    (cache.insert word result).get? other =
      if cache.slot other = cache.slot word then if other = word then some result else none
      else cache.get? other := by
  have hheld : (cache.insert word result).slots.get ((cache.insert word result).slot other) =
      if (cache.slot word).val = (cache.slot other).val then some (word, result)
      else cache.slots.get (cache.slot other) := by
    rw [insert, if_pos hstores]
    exact Vector.getElem_set (cache.slot word).isLt (cache.slot other).isLt
  ext found
  rw [get?_eq_some_iff, hheld]
  by_cases hslot : cache.slot other = cache.slot word
  · rw [if_pos (congrArg Fin.val hslot.symm), if_pos hslot]
    by_cases hword : other = word
    · simp [hword]
    · simp [hword, Ne.symm hword]
  · rw [if_neg fun hval => hslot (Fin.ext hval.symm), if_neg hslot, get?_eq_some_iff]

/-- A word that is not stored leaves the cache as it is. -/
theorem insert_of_not_stores {word : Text} (hstores : ¬ stores word = true)
    (cache : ResultCache α) (result : α) : cache.insert word result = cache :=
  if_neg hstores

/-- What is found after storing a result is that result or was found before. -/
theorem get?_insert_cases {cache : ResultCache α} {word other : Text} {result found : α}
    (hfound : (cache.insert word result).get? other = some found) :
    (other = word ∧ found = result) ∨ cache.get? other = some found := by
  by_cases hstores : stores word = true
  · rw [get?_insert hstores] at hfound
    split at hfound
    · split at hfound
      · rename_i hword
        exact .inl ⟨hword, (Option.some.inj hfound).symm⟩
      · cases hfound
    · exact .inr hfound
  · rw [insert_of_not_stores hstores] at hfound
    exact .inr hfound

end Orthography.ResultCache
