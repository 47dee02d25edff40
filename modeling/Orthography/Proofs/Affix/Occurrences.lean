import Mathlib.Data.List.Pairwise
import Mathlib.Data.List.Sort
import Orthography.Affix.Replacement

/-!
# The occurrences that are rewritten

A replacement rewrites a word at one occurrence of its source at a time.  The occurrences are found
from left to right, and one that overlaps an occurrence found before it is passed over
(`Replacement.selects_sites`).  So all of them are rewritten if and only if no two of them overlap,
and this for each replacement of a list (`Replacement.variants_eq_allVariants_iff`).
-/

namespace Orthography.Replacement

/-! ### Occurrences -/

/-- Where `part` occurs in a word, from left to right, overlapping or not. -/
def places (part word : Text) : List Nat :=
  (List.range (word.length + 1)).filter fun position => part <+: word.drop position

/-- No two occurrences of `part` in a word overlap. -/
def Apart (part word : Text) : Prop :=
  ∀ first second, first < second → part <+: word.drop first → part <+: word.drop second →
    first + part.length ≤ second

/-- The words that replacing any one occurrence of the source gives; an empty source gives none. -/
def allRewrites (replacement : Replacement) (word : Text) : List Text :=
  if replacement.source.isEmpty then []
  else (places replacement.source word).map (replacement.rewriteAt word)

/-- The words that each replacement in turn gives at each occurrence of its source. -/
def allVariants (replacements : List Replacement) (word : Text) : List Text :=
  replacements.flatMap (·.allRewrites word)

variable {part word : Text} {position start : Nat} {found : List Nat}

/-- What occurs somewhere in a word, and is not empty, occurs before its end. -/
theorem lt_length_of_occurs (hpart : part ≠ []) (hoccurs : part <+: word.drop position) :
    position < word.length := by
  have hlength := hoccurs.length_le
  have hsome := List.length_pos_iff.mpr hpart
  rw [List.length_drop] at hlength
  omega

/-- The places are the positions of occurrences. -/
theorem mem_places_iff (hpart : part ≠ []) :
    position ∈ places part word ↔ part <+: word.drop position := by
  rw [places, List.mem_filter, List.mem_range, decide_eq_true_eq]
  exact and_iff_right_of_imp fun hoccurs => by
    have := lt_length_of_occurs hpart hoccurs
    omega

/-- The places are in order. -/
theorem pairwise_places (part word : Text) : (places part word).Pairwise (· < ·) :=
  List.Pairwise.filter _ List.pairwise_lt_range

/-! ### Finding them from left to right -/

/-- Positions are those that are found from left to right, from `start` on: occurrences that stand
apart, such that each one left out begins in an occurrence found before it. -/
structure Selects (part word : Text) (start : Nat) (found : List Nat) : Prop where
  occurs : ∀ position ∈ found, start ≤ position ∧ part <+: word.drop position
  apart : found.Pairwise fun first second => first + part.length ≤ second
  covers : ∀ position, start ≤ position → part <+: word.drop position →
    position ∈ found ∨ ∃ first ∈ found, first < position ∧ position < first + part.length

/-- Nothing occurs from the end of a word on. -/
theorem selects_nil (hpart : part ≠ []) (hend : word.length ≤ start) :
    Selects part word start [] where
  occurs := nofun
  apart := .nil
  covers := fun position hstart hoccurs => by
    have := lt_length_of_occurs hpart hoccurs
    omega

/-- Where nothing occurs, the search goes on behind. -/
theorem Selects.skip (hfound : Selects part word (start + 1) found)
    (hnone : ¬part <+: word.drop start) : Selects part word start found where
  occurs := fun position hposition => by
    obtain ⟨hstart, hoccurs⟩ := hfound.occurs position hposition
    exact ⟨by omega, hoccurs⟩
  apart := hfound.apart
  covers := fun position hstart hoccurs => by
    refine hfound.covers position ?_ hoccurs
    rcases hstart.eq_or_lt with rfl | hlater
    · exact absurd hoccurs hnone
    · exact hlater

/-- Where there is an occurrence, the search goes on behind all of it. -/
theorem Selects.hit (hfound : Selects part word (start + part.length) found)
    (hoccurs : part <+: word.drop start) : Selects part word start (start :: found) where
  occurs := List.forall_mem_cons.mpr ⟨⟨le_rfl, hoccurs⟩, fun position hposition => by
    obtain ⟨hstart, hoccurs⟩ := hfound.occurs position hposition
    exact ⟨by omega, hoccurs⟩⟩
  apart := .cons (fun position hposition => (hfound.occurs position hposition).1) hfound.apart
  covers := fun position hstart hother => by
    by_cases hinside : position < start + part.length
    · rcases hstart.eq_or_lt with rfl | hlater
      · exact .inl List.mem_cons_self
      · exact .inr ⟨start, List.mem_cons_self, hlater, hinside⟩
    · exact (hfound.covers position (by omega) hother).imp (List.mem_cons_of_mem _)
        fun ⟨first, hfirst, hbefore⟩ => ⟨first, List.mem_cons_of_mem _ hfirst, hbefore⟩

/-- The sites from a position on are found from left to right behind the characters to skip. -/
theorem selects_sitesFrom (hpart : part ≠ []) {skipped : Nat} {text : Text}
    (htext : word.drop position = text) :
    Selects part word (position + skipped) (sitesFrom part position skipped text) := by
  induction text generalizing position skipped with
  | nil =>
      rw [sitesFrom]
      exact selects_nil hpart ((List.drop_eq_nil_iff.mp htext).trans (Nat.le_add_right _ _))
  | cons c rest ih =>
      have hbehind : word.drop (position + 1) = rest := by
        rw [← List.drop_drop, htext]
        rfl
      cases skipped with
      | succ skipped =>
          rw [sitesFrom, Nat.add_comm skipped, ← Nat.add_assoc]
          exact ih hbehind
      | zero =>
          rw [sitesFrom, Nat.add_zero]
          split
          · rename_i hstarts
            have hnext : position + 1 + (part.length - 1) = position + part.length := by
              have := List.length_pos_iff.mpr hpart
              omega
            refine .hit (hnext ▸ ih hbehind) ?_
            rw [htext]
            exact List.isPrefixOf_iff_prefix.mp hstarts
          · rename_i hnone
            have hfound : Selects part word (position + 1 + 0)
                (sitesFrom part (position + 1) 0 rest) := ih hbehind
            refine hfound.skip ?_
            rw [htext]
            exact fun hoccurs => hnone (List.isPrefixOf_iff_prefix.mpr hoccurs)

/-- The sites of a part are its occurrences that are found from left to right. -/
theorem selects_sites (hpart : part ≠ []) (word : Text) :
    Selects part word 0 (sites part word) := by
  have hfound : Selects part word (0 + 0) (sitesFrom part 0 0 word) :=
    selects_sitesFrom hpart List.drop_zero
  exact hfound

/-! ### All of them -/

/-- The sites are in order. -/
theorem pairwise_sites (hpart : part ≠ []) (word : Text) :
    (sites part word).Pairwise (· < ·) := by
  refine (selects_sites hpart word).apart.imp fun {first second} hapart => ?_
  have := List.length_pos_iff.mpr hpart
  omega

/-- The sites are some of the places. -/
theorem sites_sublist_places (hpart : part ≠ []) (word : Text) :
    (sites part word).Sublist (places part word) := by
  have hsites := pairwise_sites hpart word
  have hsubset : sites part word ⊆ places part word := fun position hposition =>
    (mem_places_iff hpart).mpr ((selects_sites hpart word).occurs position hposition).2
  exact List.sublist_of_subperm_of_pairwise
    (List.subperm_of_subset (hsites.imp ne_of_lt) hsubset) hsites (pairwise_places part word)

/-- Two sites do not overlap. -/
theorem Selects.apart_of_lt (hfound : Selects part word start found) {first second : Nat}
    (hfirst : first ∈ found) (hsecond : second ∈ found) (hbefore : first < second) :
    first + part.length ≤ second := by
  obtain ⟨i, hi, rfl⟩ := List.getElem_of_mem hfirst
  obtain ⟨j, hj, rfl⟩ := List.getElem_of_mem hsecond
  have hapart := List.pairwise_iff_getElem.mp hfound.apart
  rcases lt_trichotomy i j with hij | rfl | hji
  · exact hapart i j hi hj hij
  · exact absurd hbefore (lt_irrefl _)
  · have := hapart j i hj hi hji
    omega

/-- All places are sites if and only if no two occurrences overlap. -/
theorem sites_eq_places_iff (hpart : part ≠ []) :
    sites part word = places part word ↔ Apart part word := by
  have hselects := selects_sites hpart word
  constructor
  · intro hsame first second hbefore hfirst hsecond
    have hsite (position : Nat) (hoccurs : part <+: word.drop position) :
        position ∈ sites part word := hsame ▸ (mem_places_iff hpart).mpr hoccurs
    exact hselects.apart_of_lt (hsite first hfirst) (hsite second hsecond) hbefore
  · intro hapart
    refine (pairwise_sites hpart word).eq_of_mem_iff (pairwise_places part word) fun position => ?_
    rw [mem_places_iff hpart]
    refine ⟨fun hposition => (hselects.occurs position hposition).2, fun hoccurs => ?_⟩
    rcases hselects.covers position (Nat.zero_le _) hoccurs with hsite | ⟨first, hfirst, hinside⟩
    · exact hsite
    · have := hapart first position hinside.1 (hselects.occurs first hfirst).2 hoccurs
      omega

/-- The rewrites of a word are some of those at all occurrences. -/
theorem rewrites_sublist_allRewrites (replacement : Replacement) (word : Text) :
    (replacement.rewrites word).Sublist (replacement.allRewrites word) := by
  unfold rewrites allRewrites
  split
  · exact List.Sublist.refl _
  · rename_i hsource
    exact (sites_sublist_places (by simpa using hsource) word).map _

/-- A replacement rewrites a word at all occurrences of its source if and only if no two of them
overlap. -/
theorem rewrites_eq_allRewrites_iff (replacement : Replacement) (word : Text) :
    replacement.rewrites word = replacement.allRewrites word ↔
      (replacement.source ≠ [] → Apart replacement.source word) := by
  unfold rewrites allRewrites
  split
  · rename_i hsource
    simpa using fun hsome => absurd (List.isEmpty_iff.mp hsource) hsome
  · rename_i hsource
    have hsome : replacement.source ≠ [] := by simpa using hsource
    rw [imp_iff_right hsome, ← sites_eq_places_iff hsome]
    refine ⟨fun hsame => ?_, congrArg _⟩
    -- Rewriting at two places may give the same word, but there are as many words as places.
    refine (sites_sublist_places hsome word).eq_of_length ?_
    simpa only [List.length_map] using congrArg List.length hsame

/-- Lists that are put together from shorter ones are equal only if their parts are. -/
theorem append_eq_append_iff_of_sublist {α : Type} {first second others more : List α}
    (hfirst : first.Sublist others) (hsecond : second.Sublist more) :
    first ++ second = others ++ more ↔ first = others ∧ second = more := by
  refine ⟨fun hsame => ?_, fun ⟨hfirst, hsecond⟩ => hfirst ▸ hsecond ▸ rfl⟩
  have hlength := congrArg List.length hsame
  rw [List.length_append, List.length_append] at hlength
  have hless := hfirst.length_le
  have hlesser := hsecond.length_le
  exact ⟨hfirst.eq_of_length (by omega), hsecond.eq_of_length (by omega)⟩

/-- The rewrites of a word by some replacements are some of those at all occurrences. -/
theorem variants_sublist_allVariants (replacements : List Replacement) (word : Text) :
    (variants replacements word).Sublist (allVariants replacements word) := by
  induction replacements with
  | nil => exact List.Sublist.refl _
  | cons replacement replacements ih => exact (rewrites_sublist_allRewrites _ _).append ih

/-- A word is rewritten at every occurrence of the source of each replacement if and only if no two
occurrences of the same source overlap in it. -/
theorem variants_eq_allVariants_iff (replacements : List Replacement) (word : Text) :
    variants replacements word = allVariants replacements word ↔
      ∀ replacement ∈ replacements, replacement.source ≠ [] → Apart replacement.source word := by
  induction replacements with
  | nil => exact iff_of_true rfl (List.forall_mem_nil _)
  | cons replacement replacements ih =>
      have hcons : variants (replacement :: replacements) word =
          replacement.rewrites word ++ variants replacements word := List.flatMap_cons
      have hall : allVariants (replacement :: replacements) word =
          replacement.allRewrites word ++ allVariants replacements word := List.flatMap_cons
      rw [hcons, hall, append_eq_append_iff_of_sublist (rewrites_sublist_allRewrites _ _)
        (variants_sublist_allVariants _ _), rewrites_eq_allRewrites_iff, ih, List.forall_mem_cons]

/-- Of two occurrences that overlap only the first is rewritten. -/
theorem variants_ne_allVariants_of_overlap :
    let doubled : Replacement := ⟨"aa".toList, "b".toList⟩
    variants [doubled] "aaa".toList = ["ba".toList] ∧
      allVariants [doubled] "aaa".toList = ["ba".toList, "ab".toList] ∧
      variants [doubled] "aaa".toList ≠ allVariants [doubled] "aaa".toList := by
  decide +kernel

end Orthography.Replacement
