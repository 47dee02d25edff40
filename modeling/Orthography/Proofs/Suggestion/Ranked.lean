import Orthography.Proofs.Suggestion.Collected

/-!
# The order of suggestions

Suggestions are ranked by distance, then by weight, then by word.  Weights are compared in the total
order of floating-point numbers, in which different weights never tie, so suggestions of different
words never tie either: a list in which each word stands once is strictly ordered after ranking
(`Candidates.pairwise_rank`).
-/

namespace Orthography

namespace Weight

variable {a b : Weight}

/-- The total order of floating-point numbers.  Numbers with a minus sign come before the others; of
two of them the one of greater magnitude comes first, of two others the one of smaller. -/
def Below (a b : Weight) : Prop :=
  if a.isNegative then b.isNegative = true → b.magnitude < a.magnitude
  else b.isNegative = false ∧ a.magnitude < b.magnitude

/-- The ranks of weights follow their total order. -/
theorem rank_lt_rank_iff : a.rank < b.rank ↔ a.Below b := by
  unfold rank Below
  cases a.isNegative <;> cases b.isNegative <;> simp <;> omega

/-- Of two weights at most one is below the other. -/
theorem Below.asymm (hbelow : a.Below b) : ¬ b.Below a := by
  rw [← rank_lt_rank_iff] at hbelow ⊢
  exact Int.lt_asymm hbelow

/-- A weight below another is another weight. -/
theorem Below.ne (hbelow : a.Below b) : a ≠ b := by
  rintro rfl
  exact hbelow.asymm hbelow

/-- A weight is its sign and its magnitude. -/
theorem toNat_bits (a : Weight) :
    a.bits.toNat = a.magnitude + if a.isNegative then signBit else 0 := by
  have hbits := a.bits.toNat_lt
  unfold isNegative magnitude
  by_cases hsign : signBit ≤ a.bits.toNat <;> simp [hsign] <;> unfold signBit at * <;> omega

/-- Different weights have different ranks. -/
theorem eq_of_rank_eq (hrank : a.rank = b.rank) : a = b := by
  have hbits : a.bits.toNat = b.bits.toNat := by
    rw [toNat_bits, toNat_bits]
    unfold rank at hrank
    split at hrank <;> split at hrank <;> simp_all <;> omega
  cases a
  cases b
  exact congrArg Weight.mk (UInt64.toNat_inj.mp hbits)

end Weight

/-- One suggestion stands before another: it is nearer; or as near and heavier; or as near and as
heavy, and its word comes first. -/
def Suggestion.Leads (a b : Suggestion) : Prop :=
  a.distance < b.distance ∨ a.distance = b.distance ∧
    (b.weight.Below a.weight ∨ a.weight = b.weight ∧ a.word.before b.word = true)

namespace Candidates

variable {a b : Suggestion}

/-- What it means to rank before another suggestion or as high. -/
theorem ranksBefore_iff : ranksBefore a b = true ↔
    a.distance < b.distance ∨ a.distance = b.distance ∧
      (b.weight.rank < a.weight.rank ∨
        a.weight.rank = b.weight.rank ∧ b.word.before a.word = false) := by
  unfold ranksBefore
  split
  · rename_i hdistance
    simp [hdistance]
  · rename_i hdistance
    split
    · rename_i hrank
      simp [not_not.mp hdistance, hrank]
    · rename_i hrank
      simp [not_not.mp hdistance, not_not.mp hrank]

/-- Ranking is transitive. -/
theorem ranksBefore_trans (a b c : Suggestion) (hab : ranksBefore a b = true)
    (hbc : ranksBefore b c = true) : ranksBefore a c = true := by
  rw [ranksBefore_iff] at hab hbc ⊢
  rcases hab with hab | ⟨hab, hab' | ⟨hab', hwords⟩⟩
  · omega
  · omega
  · rcases hbc with hbc | ⟨hbc, hbc' | ⟨hbc', hwords'⟩⟩
    · omega
    · omega
    · have hlast := Table.precedes_trans (a.word, ()) (b.word, ()) (c.word, ())
        (by simpa [Table.precedes] using hwords) (by simpa [Table.precedes] using hwords')
      exact .inr ⟨hab.trans hbc, .inr ⟨hab'.trans hbc', by simpa [Table.precedes] using hlast⟩⟩

/-- Of two suggestions one ranks before the other or as high. -/
theorem ranksBefore_total (a b : Suggestion) : (ranksBefore a b || ranksBefore b a) = true := by
  rw [Bool.or_eq_true, ranksBefore_iff, ranksBefore_iff]
  cases hword : b.word.before a.word with
  | false => simp; omega
  | true =>
      have hback := Text.before_asymm hword
      simp [hback]
      omega

/-- Suggestions that rank as high as each other are the same. -/
theorem eq_of_ranksBefore (hab : ranksBefore a b = true) (hba : ranksBefore b a = true) :
    a = b := by
  rw [ranksBefore_iff] at hab hba
  have hdistance : a.distance = b.distance := by omega
  have hrank : a.weight.rank = b.weight.rank := by omega
  have hword : a.word = b.word := by
    by_contra hwords
    have hbefore := (hab.resolve_left (by omega)).2.resolve_left (by omega)
    have hbehind := (hba.resolve_left (by omega)).2.resolve_left (by omega)
    have hahead := Text.before_of_ne (Ne.symm hwords) hbefore.2
    rw [hbehind.2] at hahead
    cases hahead
  cases a
  cases b
  exact congr (congr (congrArg Suggestion.mk hword) hdistance) (Weight.eq_of_rank_eq hrank)

/-- Ranking gives the only list in order of the candidates with their weights. -/
theorem list_rank_eq {candidates : Candidates} {frequencies : Frequencies} {found : List Suggestion}
    (hfound : (candidates.list.map fun suggestion =>
      { suggestion with weight := frequencies.foldedWeight suggestion.word }).Perm found)
    (hordered : found.Pairwise fun a b => ranksBefore a b = true) :
    (candidates.rank frequencies).list = found :=
  List.Perm.eq_of_pairwise (fun _ _ _ _ => eq_of_ranksBefore)
    (List.pairwise_mergeSort ranksBefore_trans ranksBefore_total _) hordered
    ((List.mergeSort_perm _ _).trans hfound)

/-- What ranks before a suggestion of another word or as high stands before it. -/
theorem leads_of_ranksBefore (hranks : ranksBefore a b = true) (hwords : a.word ≠ b.word) :
    a.Leads b := by
  rcases ranksBefore_iff.mp hranks with hnearer | ⟨hnear, hheavier | ⟨hheavy, hword⟩⟩
  · exact .inl hnearer
  · exact .inr ⟨hnear, .inl (Weight.rank_lt_rank_iff.mp hheavier)⟩
  · have hfirst := Text.before_of_ne hwords.symm hword
    exact .inr ⟨hnear, .inr ⟨Weight.eq_of_rank_eq hheavy, hfirst⟩⟩

/-- Ranking puts suggestions of different words in their strict order. -/
theorem pairwise_rank {candidates : Candidates} (hnodup : candidates.words.Nodup)
    (frequencies : Frequencies) :
    (candidates.rank frequencies).list.Pairwise Suggestion.Leads := by
  have hordered : (candidates.rank frequencies).list.Pairwise fun a b => ranksBefore a b = true :=
    List.pairwise_mergeSort ranksBefore_trans ranksBefore_total _
  have hwords := (words_rank_perm candidates frequencies).nodup_iff.mpr hnodup
  have hdistinct : (candidates.rank frequencies).list.Pairwise fun a b => a.word ≠ b.word :=
    List.pairwise_map.mp hwords
  refine (hordered.and hdistinct).imp ?_
  rintro a b ⟨hranks, hother⟩
  exact leads_of_ranksBefore hranks hother

end Candidates

end Orthography
