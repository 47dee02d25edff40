import Orthography.Proofs.EditDistance.Script

/-!
# The bounded distance

Looking for a distance within a bound gives up early: on words whose lengths are too far apart, and
at a row whose entries all exceed the bound.  It never gives up on a distance that is within the
bound, and what it finds is the distance.
-/

namespace Orthography

namespace EditDistance

/-- Every way on from a row passes one of its entries: if these all exceed a bound, so does the
distance. -/
theorem lt_distance_of_lastRow {bound : Nat} {word start : Text} (more : Text)
    (hfar : (lastRow word (firstRow word) start).all (bound < ·) = true) :
    bound < Text.distance (start ++ more) word := by
  obtain ⟨front, behind, rfl, hfront⟩ := Text.exists_distance_le_distance_append start more word
  have hentry := List.all_eq_true.mp hfar _ (mem_lastRow start front behind)
  rw [decide_eq_true_eq] at hentry
  exact Nat.lt_of_lt_of_le hentry hfront

/-- The bounded search finds the last row, or the distance exceeds the bound. -/
theorem lastRowWithin?_lastRow (bound : Nat) (word done other : Text) :
    lastRowWithin? bound word (lastRow word (firstRow word) done) other =
        some (lastRow word (firstRow word) (done ++ other)) ∨
      lastRowWithin? bound word (lastRow word (firstRow word) done) other = none ∧
        bound < Text.distance (done ++ other) word := by
  induction other generalizing done with
  | nil => exact .inl (by rw [List.append_nil, lastRowWithin?])
  | cons c other ih =>
      rw [List.append_cons done c other, lastRowWithin?, ← lastRow_concat]
      split
      · rename_i hfar
        exact .inr ⟨rfl, lt_distance_of_lastRow other hfar⟩
      · exact ih (done ++ [c])

end EditDistance

namespace Text

open EditDistance

/-- Words whose lengths differ by more than a bound are farther apart than it. -/
theorem lt_distance_of_length {a b : Text} {bound : Nat}
    (hlengths : bound < max (a.length - b.length) (b.length - a.length)) :
    bound < distance a b := by
  obtain ⟨hfirst, hsecond⟩ := length_le_add_distance a b
  omega

/-- The bounded distance is the distance, if that is within the bound. -/
theorem distanceWithin?_eq (a b : Text) (bound : Nat) :
    distanceWithin? a b bound = if distance a b ≤ bound then some (distance a b) else none := by
  unfold distanceWithin?
  split
  · rename_i hlengths
    rw [if_neg (Nat.not_le.mpr (lt_distance_of_length hlengths))]
  · rcases lastRowWithin?_lastRow bound b [] a with hfound | ⟨hnone, hfar⟩
    · rw [lastRow, List.foldl_nil, List.nil_append] at hfound
      rw [hfound, Option.map_some, ← distance, Option.filter_some]
      simp only [decide_eq_true_eq]
    · rw [lastRow, List.foldl_nil] at hnone
      rw [List.nil_append] at hfar
      rw [hnone, if_neg (Nat.not_le.mpr hfar)]
      rfl

/-- The bounded search succeeds exactly if the distance is within the bound. -/
theorem isSome_distanceWithin? (a b : Text) (bound : Nat) :
    (distanceWithin? a b bound).isSome = true ↔ distance a b ≤ bound := by
  rw [distanceWithin?_eq]
  split <;> simp [*]

/-- Looking within a bound finds the distance exactly if it is within the bound, and gives up
exactly if it exceeds it.  The tests that end the search early hold of such words alone: that the
lengths differ by more than the bound, and that all entries of the row after some start of the first
word exceed it. -/
theorem distanceWithin?_exact (a b : Text) (bound : Nat) :
    (∀ found, distanceWithin? a b bound = some found ↔ found = distance a b ∧ found ≤ bound) ∧
      (distanceWithin? a b bound = none ↔ bound < distance a b) ∧
      (bound < max (a.length - b.length) (b.length - a.length) → bound < distance a b) ∧
      ∀ start more, a = start ++ more →
        (lastRow b (firstRow b) start).all (bound < ·) = true → bound < distance a b := by
  refine ⟨fun found => ?_, ?_, lt_distance_of_length, ?_⟩
  · rw [distanceWithin?_eq]
    split
    · rename_i hwithin
      rw [Option.some.injEq, eq_comm]
      exact ⟨fun hfound => ⟨hfound, hfound ▸ hwithin⟩, fun hfound => hfound.1⟩
    · rename_i hfar
      exact ⟨nofun, fun ⟨hfound, hwithin⟩ => absurd (hfound ▸ hwithin) hfar⟩
  · rw [← Option.not_isSome_iff_eq_none, isSome_distanceWithin?, Nat.not_le]
  · rintro start more rfl hfar
    exact lt_distance_of_lastRow more hfar

end Text

end Orthography
