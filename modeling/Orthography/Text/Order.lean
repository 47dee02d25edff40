import Orthography.Text.Basic

/-!
# The order of words

Words are ordered character by character, the shorter first.  The order is strict and linear, so a
list of words in order is determined by its members.
-/

namespace Orthography

namespace Text

/-- Whether one word comes before another. -/
def before : Text → Text → Bool
  | _, [] => false
  | [], _ :: _ => true
  | c :: a, d :: b => if c = d then before a b else c.toNat < d.toNat

/-- No word comes before itself. -/
@[simp] theorem before_irrefl (a : Text) : before a a = false := by
  induction a with
  | nil => rfl
  | cons c a ih => simp [before, ih]

/-- The order is transitive. -/
theorem before_trans {a b c : Text} (first : before a b = true) (second : before b c = true) :
    before a c = true := by
  induction a generalizing b c with
  | nil =>
    cases c with
    | nil => cases b <;> simp [before] at second
    | cons => rfl
  | cons x a ih =>
    cases b with
    | nil => simp [before] at first
    | cons y b =>
      cases c with
      | nil => simp [before] at second
      | cons z c =>
        simp only [before] at first second ⊢
        by_cases xy : x = y
        · by_cases yz : y = z
          · simp only [xy, yz, ↓reduceIte] at first second ⊢
            exact ih first second
          · simpa [xy, yz] using second
        · by_cases yz : y = z
          · subst yz
            simpa [xy] using first
          · simp only [xy, yz, ↓reduceIte, decide_eq_true_eq] at first second
            have apart : x ≠ z := fun same => by subst same; omega
            simp only [apart, ↓reduceIte, decide_eq_true_eq]
            omega

/-- Of two different words one comes before the other. -/
theorem before_of_ne {a b : Text} (different : a ≠ b) (not : before a b = false) :
    before b a = true := by
  induction a generalizing b with
  | nil =>
    cases b with
    | nil => exact absurd rfl different
    | cons => simp [before] at not
  | cons x a ih =>
    cases b with
    | nil => rfl
    | cons y b =>
      simp only [before] at not ⊢
      by_cases same : x = y
      · subst same
        simp only [↓reduceIte] at not ⊢
        exact ih (fun h => different (by rw [h])) not
      · have codes : x.toNat ≠ y.toNat := fun h => same (Char.toNat_inj.1 h)
        simp only [same, ↓reduceIte, decide_eq_false_iff_not, Ne.symm same, decide_eq_true_eq]
          at not ⊢
        omega

/-- The order has no cycles. -/
theorem before_asymm {a b : Text} (h : before a b = true) : before b a = false := by
  cases back : before b a with
  | false => rfl
  | true => exact absurd (before_trans h back) (by simp)

end Text

end Orthography
