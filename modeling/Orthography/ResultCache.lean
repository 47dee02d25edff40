import Orthography.Text.Basic

/-!
# Result caches

A cache of results by word.  A word has one slot; storing a result there drops whatever the slot
held.  The slot number is a hash that is reduced at every step, so it is always below the number of
slots.
-/

namespace Orthography

/-- The number of slots of a cache: two to the power of its order. -/
def slotCount (order : Nat) : Nat := Nat.pow 2 order

theorem slotCount_pos (order : Nat) : 0 < slotCount order := Nat.two_pow_pos order

/-- A cache of results, each with the word that it is for. -/
structure ResultCache (α : Type) where
  order : Nat
  slots : Vector (Option (Text × α)) (slotCount order)

namespace ResultCache

variable {α : Type}

/-- The order of the smallest caches. -/
def baseOrder : Nat := 10

/-- The greatest size; each step of size doubles the number of slots. -/
def maxSize : Nat := 6

/-- Words of more characters are not stored. -/
def maxLength : Nat := 48

/-- The hash of a word, below `slots`. -/
def hash (slots : Nat) (word : Text) : Nat :=
  word.foldl (fun value c => (value * 37 + c.toNat) % slots) 0

/-- The hash is the number of a slot. -/
theorem hash_lt {slots : Nat} (someSlot : 0 < slots) (word : Text) : hash slots word < slots := by
  suffices ∀ value, value < slots →
      word.foldl (fun value c => (value * 37 + c.toNat) % slots) value < slots from
    this 0 someSlot
  induction word with
  | nil => exact fun _ h => h
  | cons c rest ih => exact fun _ _ => ih _ (Nat.mod_lt _ someSlot)

/-- The cache of a size without results; sizes beyond the greatest count as the greatest. -/
def ofSize (size : Nat) : ResultCache α :=
  ⟨baseOrder + min size maxSize, .replicate _ none⟩

/-- The number of slots. -/
def capacity (cache : ResultCache α) : Nat := slotCount cache.order

/-- The slot of a word. -/
def slot (cache : ResultCache α) (word : Text) : Fin (slotCount cache.order) :=
  ⟨hash (slotCount cache.order) word, hash_lt (slotCount_pos _) word⟩

/-- Whether the results of a word are stored at all. -/
def stores (word : Text) : Bool := !word.isEmpty && word.length ≤ maxLength

/-- The result stored for a word. -/
def get? (cache : ResultCache α) (word : Text) : Option α :=
  match cache.slots.get (cache.slot word) with
  | some (held, result) => if held = word then some result else none
  | none => none

/-- Stores a result for a word. -/
def insert (cache : ResultCache α) (word : Text) (result : α) : ResultCache α :=
  if stores word then
    ⟨cache.order, cache.slots.set (cache.slot word) (some (word, result))⟩
  else cache

/-- The cache without its results. -/
def clear (cache : ResultCache α) : ResultCache α := ⟨cache.order, .replicate _ none⟩

/-- The result stored for a word, or else a computed one, which is stored; says whether it was
computed. -/
def getOrInsert (cache : ResultCache α) (word : Text) (compute : Unit → α) :
    ResultCache α × α × Bool :=
  match cache.get? word with
  | some result => (cache, result, false)
  | none =>
    let result := compute ()
    (cache.insert word result, result, true)

end ResultCache

end Orthography
