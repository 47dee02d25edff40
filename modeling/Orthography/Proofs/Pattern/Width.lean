import Mathlib.Data.ENat.Basic
import Orthography.Pattern.Match

/-!
# How much of a text a pattern takes up

The width of a pattern bounds how far behind its start a match can end.  A pattern without
repetitions has a finite width.  Together with an anchor at the end of the text it bounds how much
is lost when the leftmost match is taken away: only characters at the end, and no more of them than
the pattern is wide.
-/

namespace Orthography.Pattern

namespace Node

/-- A bound for the number of characters between the start and the end of a match.  Alternatives
count together, and nothing is promised of repetitions. -/
def width : Node → ℕ∞
  | empty | place _ => 0
  | char _ => 1
  | seq first second => first.width + second.width
  | alt preferred other => preferred.width + other.width
  | repeated _ _ _ _ => ⊤

/-- A match ends no further behind its start than the pattern is wide. -/
theorem le_add_width (node : Node) (text : Array Char) (position stop : Nat)
    (hstop : stop ∈ node.ends text position) : (stop : ℕ∞) ≤ position + node.width := by
  induction node generalizing position stop with
  | empty =>
      rw [ends, List.mem_singleton] at hstop
      simp [width, hstop]
  | char set =>
      unfold ends at hstop
      split at hstop
      · rw [List.mem_singleton] at hstop
        simp [width, hstop]
      · simp at hstop
  | place condition =>
      unfold ends at hstop
      split at hstop
      · rw [List.mem_singleton] at hstop
        simp [width, hstop]
      · simp at hstop
  | seq first second ihFirst ihSecond =>
      simp only [ends, List.mem_eraseDups, List.mem_flatMap] at hstop
      obtain ⟨middle, hmiddle, hrest⟩ := hstop
      calc (stop : ℕ∞) ≤ middle + second.width := ihSecond middle stop hrest
        _ ≤ position + first.width + second.width := by
            gcongr
            exact ihFirst position middle hmiddle
        _ = position + (seq first second).width := by rw [width, add_assoc]
  | alt preferred other ihPreferred ihOther =>
      simp only [ends, List.mem_eraseDups, List.mem_append] at hstop
      rcases hstop with hpreferred | hother
      · exact (ihPreferred position stop hpreferred).trans
          (add_le_add_right le_self_add _)
      · exact (ihOther position stop hother).trans (add_le_add_right le_add_self _)
  | repeated body least most greedy ih => simp [width]

/-- Every match of the pattern ends where the text ends. -/
def EndsText (node : Node) : Prop :=
  ∀ (text : Array Char) (position stop : Nat), stop ∈ node.ends text position → stop = text.size

/-- A pattern that asks for the end of the text ends there. -/
theorem endsText_place : (place .textEnd).EndsText := by
  intro text position stop hstop
  unfold ends at hstop
  split at hstop
  · rename_i hholds
    rw [List.mem_singleton] at hstop
    rw [hstop]
    exact beq_iff_eq.mp hholds
  · simp at hstop

/-- A sequence ends where its second part does. -/
theorem EndsText.seq {second : Node} (hsecond : second.EndsText) (first : Node) :
    (seq first second).EndsText := by
  intro text position stop hstop
  simp only [ends, List.mem_eraseDups, List.mem_flatMap] at hstop
  obtain ⟨middle, -, hrest⟩ := hstop
  exact hsecond text middle stop hrest

/-- A sequence with nothing behind its first part ends where the first part does. -/
theorem EndsText.seq_empty {first : Node} (hfirst : first.EndsText) :
    (Node.seq first empty).EndsText := by
  intro text position stop hstop
  simp only [ends, List.mem_eraseDups, List.mem_flatMap, List.mem_singleton] at hstop
  obtain ⟨middle, hmiddle, rfl⟩ := hstop
  exact hfirst text position stop hmiddle

/-- Every match of the pattern starts where the text starts. -/
def StartsText (node : Node) : Prop :=
  ∀ (text : Array Char) (position stop : Nat), stop ∈ node.ends text position → position = 0

/-- A pattern that asks for the start of the text starts there. -/
theorem startsText_place : (place .textStart).StartsText := by
  intro text position stop hstop
  unfold ends at hstop
  split at hstop
  · rename_i hholds
    exact beq_iff_eq.mp hholds
  · simp at hstop

/-- A sequence starts where its first part does. -/
theorem StartsText.seq {first : Node} (hfirst : first.StartsText) (second : Node) :
    (Node.seq first second).StartsText := by
  intro text position stop hstop
  simp only [ends, List.mem_eraseDups, List.mem_flatMap] at hstop
  obtain ⟨middle, hmiddle, -⟩ := hstop
  exact hfirst text position middle hmiddle

/-- What is found ends where a match from its start can end. -/
theorem mem_ends_of_findFrom? {node : Node} {text : Array Char} {starts : List Nat}
    {start stop : Nat} (hfound : node.findFrom? text starts = some (start, stop)) :
    stop ∈ node.ends text start := by
  induction starts with
  | nil => simp [findFrom?] at hfound
  | cons other starts ih =>
      unfold findFrom? at hfound
      split at hfound
      · rename_i first hfirst
        cases hfound
        exact List.mem_of_mem_head? hfirst
      · exact ih hfound

/-- Taking away a match that ends the text leaves the start of the text, without more characters
than the pattern is wide. -/
theorem strip_eq_take {node : Node} {limit : Nat} (hends : node.EndsText)
    (hwidth : node.width ≤ limit) (word : List Char) :
    ∃ kept, node.strip word = word.take kept ∧ word.length ≤ kept + limit := by
  unfold strip
  split
  · rename_i start stop hfound
    have hmatch := mem_ends_of_findFrom? hfound
    have hstop : stop = word.length := by simpa using hends _ _ _ hmatch
    have hreach : (stop : ℕ∞) ≤ (start + limit : Nat) := by
      rw [Nat.cast_add]
      exact (node.le_add_width _ _ _ hmatch).trans (add_le_add_right hwidth _)
    rw [hstop, ENat.natCast_le_natCast] at hreach
    exact ⟨start, by simp [hstop], hreach⟩
  · exact ⟨word.length, by simp, Nat.le_add_right _ _⟩

end Node

end Orthography.Pattern
