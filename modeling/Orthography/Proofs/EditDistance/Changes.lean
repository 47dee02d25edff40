import Orthography.Proofs.EditDistance.Script

/-!
# The edit distance is the least number of changes

A script goes along a word once, from left to right.  Changes may come in any order and at any
place: characters that were inserted may be replaced later and deleted again.  Such detours do not
help.  One change moves a word nearer to another one, or farther from it, by one at most, and a
script is carried out change by change, so the distance of two words is also the least length of a
sequence of changes that turns one into the other (`Text.isLeast_distance_changes`).
-/

namespace Orthography

namespace Text

open EditDistance Script

/-! ### Words that are put together -/

/-- Words that are put together are no farther apart than their parts. -/
theorem distance_append_le (a b c d : Text) :
    distance (a ++ c) (b ++ d) ≤ distance a b + distance c d := by
  obtain ⟨first, hfirst⟩ := exists_edits a b
  obtain ⟨second, hsecond⟩ := exists_edits c d
  exact (isLeast_distance _ _).2 ⟨_, hfirst.append hsecond⟩

/-- Where the second of two words is cut, the first can be cut so that the distance is that of the
parts. -/
theorem exists_distance_add_distance_le (a b c : Text) :
    ∃ front behind, a = front ++ behind ∧
      distance front b + distance behind c ≤ distance a (b ++ c) := by
  obtain ⟨script, rfl, htarget, hcost⟩ := exists_edits a (b ++ c)
  obtain ⟨first, second, rfl, rfl, rfl⟩ := List.filterMap_eq_append_iff.mp htarget
  refine ⟨source first, source second, source_append first second, ?_⟩
  rw [← hcost, cost_append]
  exact Nat.add_le_add (distance_le_cost first) (distance_le_cost second)

/-- A word is edited into at most one character by deleting its others. -/
theorem distance_toList_le (word : Text) (d : Option Char) :
    distance word d.toList ≤ max word.length 1 := by
  cases d with
  | none =>
      rw [Option.toList_none, distance_nil_right]
      exact Nat.le_max_left _ _
  | some d =>
      cases word with
      | nil => simp
      | cons c word =>
          have hone : distance [c] [d] ≤ 1 :=
            (isLeast_distance _ _).2 ⟨[.replace c d], rfl, rfl, rfl⟩
          have hrest := distance_append_le [c] [d] word []
          rw [distance_nil_right] at hrest
          change distance (c :: word) [d] ≤ max (word.length + 1) 1
          exact Nat.le_trans hrest (by omega)

/-! ### Changes -/

/-- One change of a word, at any place: a character is inserted, deleted or replaced. -/
inductive Change : Text → Text → Prop
  | insert (front behind : Text) (d : Char) : Change (front ++ behind) (front ++ d :: behind)
  | delete (front behind : Text) (c : Char) : Change (front ++ c :: behind) (front ++ behind)
  | replace (front behind : Text) (c d : Char) :
      Change (front ++ c :: behind) (front ++ d :: behind)

/-- A number of changes, one after the other, turn one word into another. -/
inductive Changes : Nat → Text → Text → Prop
  | none (a : Text) : Changes 0 a a
  | next {count : Nat} {a b c : Text} (hbefore : Changes count a b) (hlast : Change b c) :
      Changes (count + 1) a c

/-- A change turns one character or none into one or none. -/
theorem Change.exists_toList {b c : Text} (hchange : Change b c) :
    ∃ (front behind : Text) (old new : Option Char),
      b = front ++ (old.toList ++ behind) ∧ c = front ++ (new.toList ++ behind) := by
  cases hchange with
  | insert front behind d => exact ⟨front, behind, none, some d, rfl, rfl⟩
  | delete front behind c => exact ⟨front, behind, some c, none, rfl, rfl⟩
  | replace front behind c d => exact ⟨front, behind, some c, some d, rfl, rfl⟩

/-- One change moves a word away from any other by one at most. -/
theorem distance_le_of_change (a : Text) {b c : Text} (hchange : Change b c) :
    distance a c ≤ distance a b + 1 := by
  obtain ⟨front, behind, old, new, rfl, rfl⟩ := hchange.exists_toList
  obtain ⟨first, others, rfl, hfirst⟩ :=
    exists_distance_add_distance_le a front (old.toList ++ behind)
  obtain ⟨middle, last, rfl, hmiddle⟩ := exists_distance_add_distance_le others old.toList behind
  -- The part that was edited into the old character is edited into the new one instead.
  have hinstead : distance middle new.toList ≤ distance middle old.toList + 1 := by
    have hlength := (length_le_add_distance middle old.toList).1
    have hold : old.toList.length ≤ 1 := by cases old <;> simp
    have hnew := distance_toList_le middle new
    omega
  calc distance (first ++ (middle ++ last)) (front ++ (new.toList ++ behind))
      ≤ distance first front + distance (middle ++ last) (new.toList ++ behind) :=
        distance_append_le _ _ _ _
    _ ≤ distance first front + (distance middle new.toList + distance last behind) :=
        Nat.add_le_add_left (distance_append_le _ _ _ _) _
    _ ≤ distance (first ++ (middle ++ last)) (front ++ (old.toList ++ behind)) + 1 := by omega

/-- A word is where it is. -/
@[simp] theorem distance_self (a : Text) : distance a a = 0 := by
  induction a with
  | nil => rfl
  | cons c a ih => rw [distance_cons_cons_self, ih]

/-- No fewer changes than the distance turn one word into another. -/
theorem Changes.distance_le {count : Nat} {a b : Text} (hchanges : Changes count a b) :
    distance a b ≤ count := by
  induction hchanges with
  | none a => exact Nat.le_of_eq (distance_self a)
  | next hbefore hlast ih =>
      exact Nat.le_trans (distance_le_of_change _ hlast) (Nat.add_le_add_right ih 1)

/-! ### From scripts to changes -/

/-- Changes one after the other. -/
theorem Changes.trans {first second : Nat} {a b c : Text} (hfirst : Changes first a b)
    (hsecond : Changes second b c) : Changes (first + second) a c := by
  induction hsecond with
  | none b => exact hfirst
  | next hbefore hlast ih => exact (ih hfirst).next hlast

/-- What is changed may have something in front of it. -/
theorem Change.behind {a b : Text} (hchange : Change a b) (front : Text) :
    Change (front ++ a) (front ++ b) := by
  cases hchange with
  | insert middle rest d =>
      rw [← List.append_assoc, ← List.append_assoc]
      exact .insert _ rest d
  | delete middle rest c =>
      rw [← List.append_assoc, ← List.append_assoc]
      exact .delete _ rest c
  | replace middle rest c d =>
      rw [← List.append_assoc, ← List.append_assoc]
      exact .replace _ rest c d

/-- What is changed several times may have something in front of it. -/
theorem Changes.behind {count : Nat} {a b : Text} (hchanges : Changes count a b) (front : Text) :
    Changes count (front ++ a) (front ++ b) := by
  induction hchanges with
  | none a => exact .none _
  | next hbefore hlast ih => exact ih.next (hlast.behind front)

/-- An edit at the start of a word is a change, if it is not for nothing. -/
theorem changes_of_edit (edit : Edit) (word : Text) :
    Changes edit.cost (edit.before?.toList ++ word) (edit.after?.toList ++ word) := by
  cases edit with
  | keep c => exact .none _
  | replace c d => exact (Changes.none _).next (.replace [] word c d)
  | delete c => exact (Changes.none _).next (.delete [] word c)
  | insert d => exact (Changes.none _).next (.insert [] word d)

/-- A script is carried out by as many changes as it costs. -/
theorem changes_of_script (script : Script) :
    Changes (cost script) (source script) (target script) := by
  induction script with
  | nil => exact .none []
  | cons edit script ih =>
      rw [cost_cons, source_cons, target_cons]
      exact (changes_of_edit edit _).trans (ih.behind _)

/-- The distance of two words is the least number of changes, each of one character, that turn one
into the other. -/
theorem isLeast_distance_changes (a b : Text) :
    IsLeast {count | Changes count a b} (distance a b) := by
  refine ⟨?_, fun count hchanges => hchanges.distance_le⟩
  obtain ⟨script, rfl, rfl, hcost⟩ := exists_edits a b
  exact hcost ▸ changes_of_script script

end Text

end Orthography
