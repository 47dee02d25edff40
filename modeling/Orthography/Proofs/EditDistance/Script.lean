import Mathlib.Algebra.Ring.Nat
import Mathlib.Data.List.Induction
import Mathlib.Order.Bounds.Defs
import Orthography.EditDistance

/-!
# The edit distance is the least cost of a script

A row of the table has an entry for every start of the second word, and one more character of either
word adds a row or an entry to each row.  So the distance obeys a recurrence on the last characters
of the words, and by it the distance is the least cost of a script that edits one word into the
other from left to right.  Scripts can be cut anywhere, which shows how distances change with the
first characters of the words and bounds them by those of their starts.
-/

namespace Orthography

namespace EditDistance

/-! ### Rows of the table -/

/-- A row goes on with one entry for each character of the second word. -/
theorem length_extendRow (c : Char) {word : Text} {row : List Nat}
    (hrow : row.length = word.length + 1) (left : Nat) :
    (extendRow c word row left).length = word.length := by
  induction word generalizing row left with
  | nil =>
      obtain ⟨diagonal, rfl⟩ := List.length_eq_one_iff.mp hrow
      rfl
  | cons e word ih =>
      obtain ⟨diagonal, row, rfl⟩ := List.exists_cons_of_length_eq_add_one hrow
      have hrest : row.length = word.length + 1 := Nat.succ.inj hrow
      obtain ⟨above, row, rfl⟩ := List.exists_cons_of_length_eq_add_one hrest
      rw [extendRow, List.length_cons, ih hrest, List.length_cons]

/-- One more character of the second word puts one more entry at the right of a row. -/
theorem extendRow_concat {word : Text} {row : List Nat} (hrow : row.length = word.length + 1)
    (c d : Char) (above left : Nat) :
    extendRow c (word ++ [d]) (row ++ [above]) left =
      extendRow c word row left ++
        [min (min (above + 1) ((left :: extendRow c word row left).getLast?.getD 0 + 1))
          (row.getLast?.getD 0 + if c = d then 0 else 1)] := by
  induction word generalizing row left with
  | nil =>
      obtain ⟨diagonal, rfl⟩ := List.length_eq_one_iff.mp hrow
      simp [extendRow]
  | cons e word ih =>
      obtain ⟨diagonal, row, rfl⟩ := List.exists_cons_of_length_eq_add_one hrow
      have hrest : row.length = word.length + 1 := Nat.succ.inj hrow
      obtain ⟨next, row, rfl⟩ := List.exists_cons_of_length_eq_add_one hrest
      simp only [List.cons_append, extendRow]
      rw [← List.cons_append, ih hrest, List.getLast?_cons_cons, List.getLast?_cons_cons]

/-- A row has one entry more than the second word has characters. -/
theorem length_nextRow (c : Char) {word : Text} {row : List Nat}
    (hrow : row.length = word.length + 1) : (nextRow c word row).length = word.length + 1 := by
  rw [nextRow, List.length_cons, length_extendRow c hrow]

/-- The entry that one more character of the second word adds to the next row. -/
theorem nextRow_concat {word : Text} {row : List Nat} (hrow : row.length = word.length + 1)
    (c d : Char) (above : Nat) :
    nextRow c (word ++ [d]) (row ++ [above]) =
      nextRow c word row ++
        [min (min (above + 1) ((nextRow c word row).getLast?.getD 0 + 1))
          (row.getLast?.getD 0 + if c = d then 0 else 1)] := by
  have hfirst : (row ++ [above]).headD 0 = row.headD 0 := by
    obtain ⟨diagonal, rest, rfl⟩ := List.exists_cons_of_length_eq_add_one hrow
    rfl
  simp only [nextRow, hfirst, extendRow_concat hrow, List.cons_append]

/-- One more character of the first word makes one more row. -/
theorem lastRow_concat (word : Text) (row : List Nat) (other : Text) (c : Char) :
    lastRow word row (other ++ [c]) = nextRow c word (lastRow word row other) := by
  rw [lastRow, List.foldl_append]
  rfl

/-- Every row has one entry more than the second word has characters. -/
theorem length_lastRow (word other : Text) :
    (lastRow word (firstRow word) other).length = word.length + 1 := by
  induction other using List.reverseRecOn with
  | nil => simp [lastRow, firstRow]
  | append_singleton other c ih => rw [lastRow_concat, length_nextRow c ih]

/-- A row for a longer second word is the row for its start and the distance of the whole. -/
theorem lastRow_firstRow_concat (word other : Text) (d : Char) :
    lastRow (word ++ [d]) (firstRow (word ++ [d])) other =
      lastRow word (firstRow word) other ++ [Text.distance other (word ++ [d])] := by
  -- Some entry is added; that it is the distance is how the distance is read off a row.
  suffices hadds : ∃ entry, lastRow (word ++ [d]) (firstRow (word ++ [d])) other =
      lastRow word (firstRow word) other ++ [entry] by
    obtain ⟨entry, hentry⟩ := hadds
    rw [Text.distance, hentry, List.getLast?_concat]
    rfl
  induction other using List.reverseRecOn with
  | nil =>
      refine ⟨word.length + 1, ?_⟩
      simp [lastRow, firstRow, List.range_succ]
  | append_singleton other c ih =>
      obtain ⟨above, habove⟩ := ih
      rw [lastRow_concat, lastRow_concat, habove, nextRow_concat (length_lastRow word other)]
      exact ⟨_, rfl⟩

/-- The distances from a word to all starts of the second are entries of its row. -/
theorem mem_lastRow (other start more : Text) :
    Text.distance other start ∈ lastRow (start ++ more) (firstRow (start ++ more)) other := by
  induction more using List.reverseRecOn with
  | nil =>
      rw [List.append_nil, Text.distance]
      cases hlast : (lastRow start (firstRow start) other).getLast? with
      | none =>
          have hlength := length_lastRow start other
          rw [List.getLast?_eq_none_iff.mp hlast] at hlength
          cases hlength
      | some entry => exact List.mem_of_getLast? hlast
  | append_singleton more d ih =>
      rw [← List.append_assoc, lastRow_firstRow_concat]
      exact List.mem_append_left _ ih

end EditDistance

namespace Text

open EditDistance

/-! ### The recurrence on last characters -/

/-- From the empty word all characters are inserted. -/
@[simp] theorem distance_nil_left (word : Text) : distance [] word = word.length := by
  simp [distance, lastRow, firstRow, List.range_succ]

/-- To the empty word all characters are deleted. -/
@[simp] theorem distance_nil_right (word : Text) : distance word [] = word.length := by
  have hrow : lastRow [] (firstRow []) word = [word.length] := by
    induction word using List.reverseRecOn with
    | nil => rfl
    | append_singleton word c ih =>
        rw [lastRow_concat, ih, List.length_append]
        rfl
  rw [distance, hrow]
  rfl

/-- The distance of two words from those of the words without their last characters. -/
theorem distance_concat_concat (a b : Text) (c d : Char) :
    distance (a ++ [c]) (b ++ [d]) =
      min (min (distance a (b ++ [d]) + 1) (distance (a ++ [c]) b + 1))
        (distance a b + if c = d then 0 else 1) := by
  rw [distance, lastRow_concat, lastRow_firstRow_concat, nextRow_concat (length_lastRow b a),
    List.getLast?_concat, ← lastRow_concat]
  rfl

/-- A character more in the first word costs at most its deletion. -/
theorem distance_concat_left_le (a b : Text) (c : Char) :
    distance (a ++ [c]) b ≤ distance a b + 1 := by
  induction b using List.reverseRecOn with
  | nil => simp
  | append_singleton b d _ =>
      rw [distance_concat_concat]
      omega

/-- A character more in the second word costs at most its insertion. -/
theorem distance_concat_right_le (a b : Text) (d : Char) :
    distance a (b ++ [d]) ≤ distance a b + 1 := by
  induction a using List.reverseRecOn with
  | nil => simp
  | append_singleton a c _ =>
      rw [distance_concat_concat]
      omega

end Text

/-! ### Scripts -/

/-- What is done at one place of a word. -/
inductive Edit where
  | keep (c : Char)
  | replace (c d : Char)
  | delete (c : Char)
  | insert (d : Char)
  deriving DecidableEq, Repr

namespace Edit

/-- The character that is there before. -/
def before? : Edit → Option Char
  | keep c | replace c _ | delete c => some c
  | insert _ => none

/-- The character that is there afterwards. -/
def after? : Edit → Option Char
  | keep d | replace _ d | insert d => some d
  | delete _ => none

/-- Everything but keeping a character is one edit. -/
def cost : Edit → Nat
  | keep _ => 0
  | replace _ _ | delete _ | insert _ => 1

/-- What takes back an edit. -/
def undo : Edit → Edit
  | keep c => keep c
  | replace c d => replace d c
  | delete c => insert c
  | insert d => delete d

end Edit

/-- Edits along a word, from left to right. -/
abbrev Script := List Edit

namespace Script

/-- The word that a script edits. -/
def source (script : Script) : Text := script.filterMap Edit.before?

/-- The word that a script makes of it. -/
def target (script : Script) : Text := script.filterMap Edit.after?

/-- The number of edits in a script. -/
def cost (script : Script) : Nat := (script.map Edit.cost).sum

@[simp] theorem source_cons (edit : Edit) (script : Script) :
    source (edit :: script) = edit.before?.toList ++ source script := by
  cases edit <;> rfl

@[simp] theorem target_cons (edit : Edit) (script : Script) :
    target (edit :: script) = edit.after?.toList ++ target script := by
  cases edit <;> rfl

@[simp] theorem cost_cons (edit : Edit) (script : Script) :
    cost (edit :: script) = edit.cost + cost script := rfl

theorem source_append (first second : Script) :
    source (first ++ second) = source first ++ source second := List.filterMap_append

theorem target_append (first second : Script) :
    target (first ++ second) = target first ++ target second := List.filterMap_append

theorem cost_append (first second : Script) :
    cost (first ++ second) = cost first + cost second := by
  simp [cost]

/-- No script is cheaper than the distance of its words. -/
theorem distance_le_cost (script : Script) :
    Text.distance (source script) (target script) ≤ cost script := by
  induction script using List.reverseRecOn with
  | nil => exact Nat.le_refl 0
  | append_singleton script edit ih =>
      rw [source_append, target_append, cost_append]
      refine Nat.le_trans ?_ (Nat.add_le_add_right ih _)
      cases edit with
      | keep c =>
          have hlast := Text.distance_concat_concat (source script) (target script) c c
          rw [if_pos rfl] at hlast
          exact hlast ▸ Nat.min_le_right _ _
      | replace c d =>
          have hlast := Text.distance_concat_concat (source script) (target script) c d
          have hcost : (if c = d then 0 else 1) ≤ 1 := by split <;> omega
          exact hlast ▸ Nat.le_trans (Nat.min_le_right _ _) (Nat.add_le_add_left hcost _)
      | delete c =>
          have hlast := Text.distance_concat_left_le (source script) (target script) c
          simpa [source, target, cost, List.filterMap_cons, Edit.before?, Edit.after?, Edit.cost]
            using hlast
      | insert d =>
          have hlast := Text.distance_concat_right_le (source script) (target script) d
          simpa [source, target, cost, List.filterMap_cons, Edit.before?, Edit.after?, Edit.cost]
            using hlast

/-- A script edits one word into another at a cost. -/
structure Edits (script : Script) (a b : Text) (price : Nat) : Prop where
  source_eq : source script = a
  target_eq : target script = b
  cost_eq : cost script = price

/-- The script that does nothing. -/
theorem edits_nil : Edits [] [] [] 0 := ⟨rfl, rfl, rfl⟩

/-- Scripts for two words each, one after the other. -/
theorem Edits.append {first second : Script} {a b c d : Text} {price more : Nat}
    (hfirst : Edits first a b price) (hsecond : Edits second c d more) :
    Edits (first ++ second) (a ++ c) (b ++ d) (price + more) :=
  ⟨by rw [source_append, hfirst.source_eq, hsecond.source_eq],
    by rw [target_append, hfirst.target_eq, hsecond.target_eq],
    by rw [cost_append, hfirst.cost_eq, hsecond.cost_eq]⟩

/-- Deleting a character makes a word without it. -/
theorem Edits.delete {script : Script} {a b : Text} {price : Nat} (hscript : Edits script a b price)
    (c : Char) : Edits (script ++ [.delete c]) (a ++ [c]) b (price + 1) := by
  have hlast : Edits [.delete c] [c] [] 1 := ⟨rfl, rfl, rfl⟩
  simpa using hscript.append hlast

/-- Inserting a character makes a word with it. -/
theorem Edits.insert {script : Script} {a b : Text} {price : Nat} (hscript : Edits script a b price)
    (d : Char) : Edits (script ++ [.insert d]) a (b ++ [d]) (price + 1) := by
  have hlast : Edits [.insert d] [] [d] 1 := ⟨rfl, rfl, rfl⟩
  simpa using hscript.append hlast

/-- Each edit taken back, a script edits the words the other way round. -/
theorem Edits.undo {script : Script} {a b : Text} {price : Nat} (hscript : Edits script a b price) :
    Edits (script.map Edit.undo) b a price := by
  obtain ⟨rfl, rfl, rfl⟩ := hscript
  induction script with
  | nil => exact edits_nil
  | cons edit script ih =>
      have hfirst : Edits [edit.undo] edit.after?.toList edit.before?.toList edit.cost := by
        cases edit <;> exact ⟨rfl, rfl, rfl⟩
      rw [source_cons, target_cons, cost_cons, List.map_cons]
      exact hfirst.append ih

/-- Some script costs just the distance of two words. -/
theorem exists_edits (a b : Text) : ∃ script, Edits script a b (Text.distance a b) := by
  induction a using List.reverseRecOn generalizing b with
  | nil =>
      induction b using List.reverseRecOn with
      | nil => exact ⟨[], edits_nil⟩
      | append_singleton b d ih =>
          obtain ⟨script, hscript⟩ := ih
          exact ⟨_, by simpa using hscript.insert d⟩
  | append_singleton a c ihFirst =>
      induction b using List.reverseRecOn with
      | nil =>
          obtain ⟨script, hscript⟩ := ihFirst []
          exact ⟨_, by simpa using hscript.delete c⟩
      | append_singleton b d ihSecond =>
          have hlast : Text.distance (a ++ [c]) (b ++ [d]) = Text.distance a (b ++ [d]) + 1 ∨
              Text.distance (a ++ [c]) (b ++ [d]) = Text.distance (a ++ [c]) b + 1 ∨
              Text.distance (a ++ [c]) (b ++ [d]) =
                Text.distance a b + if c = d then 0 else 1 := by
            rw [Text.distance_concat_concat]
            omega
          rcases hlast with hdelete | hinsert | hkeep
          · obtain ⟨script, hscript⟩ := ihFirst (b ++ [d])
            exact ⟨_, hdelete ▸ hscript.delete c⟩
          · obtain ⟨script, hscript⟩ := ihSecond
            exact ⟨_, hinsert ▸ hscript.insert d⟩
          · obtain ⟨script, hscript⟩ := ihFirst b
            rw [hkeep]
            split
            · rename_i hsame
              exact ⟨script ++ [.keep c], hscript.append ⟨rfl, hsame ▸ rfl, rfl⟩⟩
            · exact ⟨script ++ [.replace c d], hscript.append ⟨rfl, rfl, rfl⟩⟩

end Script

namespace Text

open Script

/-- The distance of two words is the least cost of a script that edits one into the other. -/
theorem isLeast_distance (a b : Text) :
    IsLeast {price | ∃ script, Edits script a b price} (distance a b) := by
  refine ⟨exists_edits a b, ?_⟩
  rintro price ⟨script, rfl, rfl, rfl⟩
  exact distance_le_cost script

/-! ### What scripts say of distances -/

/-- Words differ in length by no more than their distance. -/
theorem length_le_add_distance (a b : Text) :
    a.length ≤ b.length + distance a b ∧ b.length ≤ a.length + distance a b := by
  obtain ⟨script, rfl, rfl, hcost⟩ := exists_edits a b
  rw [← hcost]
  clear hcost
  induction script with
  | nil => exact ⟨Nat.le_refl 0, Nat.le_refl 0⟩
  | cons edit script ih =>
      simp only [source_cons, target_cons, cost_cons, List.length_append]
      cases edit <;>
        simp only [Edit.before?, Edit.after?, Edit.cost, Option.toList, List.length_cons,
          List.length_nil] <;>
        omega

/-- The distance of a longer word is no less than that of its start from some start of the other. -/
theorem exists_distance_le_distance_append (a more b : Text) :
    ∃ start rest, b = start ++ rest ∧ distance a start ≤ distance (a ++ more) b := by
  obtain ⟨script, hsource, rfl, hcost⟩ := exists_edits (a ++ more) b
  obtain ⟨first, second, rfl, rfl, -⟩ := List.filterMap_eq_append_iff.mp hsource
  refine ⟨target first, target second, target_append first second, ?_⟩
  rw [← hcost, cost_append]
  exact Nat.le_trans (distance_le_cost first) (Nat.le_add_right _ _)

/-- Edits can be undone, so distances are the same both ways. -/
theorem distance_comm (a b : Text) : distance a b = distance b a := by
  have hundone (a b : Text) : distance b a ≤ distance a b := by
    obtain ⟨script, hscript⟩ := exists_edits a b
    exact (isLeast_distance b a).2 ⟨_, hscript.undo⟩
  exact Nat.le_antisymm (hundone b a) (hundone a b)

/-- Without its first character a word is farther by one at most. -/
theorem distance_le_distance_cons_right (a b : Text) (d : Char) :
    distance a b ≤ distance a (d :: b) + 1 := by
  obtain ⟨script, rfl, htarget, hcost⟩ := exists_edits a (d :: b)
  obtain ⟨first, edit, second, rfl, hfirst, -, rfl⟩ := List.filterMap_eq_cons_iff.mp htarget
  -- The edit that makes the first character is left out; a character that it used is deleted.
  obtain ⟨instead, hinstead⟩ := exists_edits edit.before?.toList []
  have hother : Edits (first ++ (instead ++ second)) (source (first ++ edit :: second))
      (target second)
      (cost first + (distance edit.before?.toList [] + cost second)) := by
    rw [source_append, source_cons]
    have hnone : target first = [] := List.filterMap_eq_nil_iff.mpr hfirst
    exact .append ⟨rfl, hnone, rfl⟩ (hinstead.append ⟨rfl, rfl, rfl⟩)
  have hlength : edit.before?.toList.length ≤ 1 := by cases edit <;> simp [Edit.before?]
  refine Nat.le_trans ((isLeast_distance _ _).2 ⟨_, hother⟩) ?_
  rw [← hcost, distance_nil_right, cost_append, cost_cons]
  omega

/-- Words are no nearer for a first character before each. -/
theorem distance_le_distance_cons_cons (a b : Text) (c d : Char) :
    distance a b ≤ distance (c :: a) (d :: b) := by
  obtain ⟨script, hsource, htarget, hcost⟩ := exists_edits (c :: a) (d :: b)
  rw [← hcost]
  cases script with
  | nil => cases hsource
  | cons edit script =>
      rw [cost_cons]
      have hrest := distance_le_cost script
      cases edit with
      | keep e =>
          obtain ⟨rfl, rfl⟩ := And.intro (List.cons.inj hsource).2 (List.cons.inj htarget).2
          exact Nat.le_trans hrest (Nat.le_add_left _ _)
      | replace e f =>
          obtain ⟨rfl, rfl⟩ := And.intro (List.cons.inj hsource).2 (List.cons.inj htarget).2
          exact Nat.le_trans hrest (Nat.le_add_left _ _)
      | delete e =>
          obtain rfl : source script = a := (List.cons.inj hsource).2
          have hshorter := distance_le_distance_cons_right (source script) b d
          rw [show target script = d :: b from htarget] at hrest
          rw [Edit.cost]
          omega
      | insert f =>
          obtain rfl : target script = b := (List.cons.inj htarget).2
          have hshorter := distance_le_distance_cons_right (target script) a c
          rw [distance_comm, distance_comm _ (c :: a)] at hshorter
          rw [show source script = c :: a from hsource] at hrest
          rw [Edit.cost]
          omega

/-- Words that start with the same character are as far apart as what follows it. -/
theorem distance_cons_cons_self (a b : Text) (c : Char) :
    distance (c :: a) (c :: b) = distance a b := by
  refine Nat.le_antisymm ?_ (distance_le_distance_cons_cons a b c c)
  obtain ⟨script, hscript⟩ := exists_edits a b
  have hkept : Edits [.keep c] [c] [c] 0 := ⟨rfl, rfl, rfl⟩
  exact (isLeast_distance _ _).2 ⟨_, by simpa using hkept.append hscript⟩

end Text

end Orthography
