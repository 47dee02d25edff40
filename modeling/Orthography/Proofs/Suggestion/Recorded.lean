import Mathlib.Data.List.Induction
import Mathlib.Order.Bounds.Basic
import Orthography.Proofs.EditDistance.Bounded
import Orthography.Proofs.Suggestion.Collected

/-!
# What the candidates record

Corrections are offered at distances, and candidates should hold each word that is offered within
the limit once, at the smallest of its distances.  The words are always those (`Lists.addAt`).  The
distances are too exactly as long as a correction that comes again is found at its place of arrival
(`Records.addAt_iff`), and it is as long as nothing is ranked (`records_addOffers`).
-/

namespace Orthography

namespace Candidates

/-- The distances within a limit at which a word is offered. -/
def distancesOf (offers : List (Text × Nat)) (limit : Nat) (word : Text) : Set Nat :=
  {distance | (word, distance) ∈ offers ∧ distance ≤ limit}

/-- The candidates hold the words offered within the limit, but for the misspelt one, each once. -/
structure Lists (candidates : Candidates) (offers : List (Text × Nat)) : Prop where
  nodup : candidates.words.Nodup
  mem_words : ∀ word, word ∈ candidates.words ↔
    word ≠ candidates.word ∧ (distancesOf offers candidates.limit word).Nonempty

/-- The candidates hold each of the words offered once, at the smallest of its distances. -/
structure Records (candidates : Candidates) (offers : List (Text × Nat)) : Prop
    extends Lists candidates offers where
  isLeast : ∀ suggestion ∈ candidates.list,
    IsLeast (distancesOf offers candidates.limit suggestion.word) suggestion.distance

/-- A correction that comes again stands at its place of arrival; or it changes nothing there, and
has come at a smaller distance before. -/
def Finds (candidates : Candidates) (correction : Text) (distance : Nat) : Prop :=
  ∀ place suggestion, candidates.order.idxOf? correction = some place →
    candidates.list[place]? = some suggestion →
      suggestion.word = correction ∨ suggestion.distance ≤ distance ∧
        ∀ held ∈ candidates.list, held.word = correction → held.distance ≤ distance

section Offers

variable {offers : List (Text × Nat)} {limit distance : Nat} {word correction : Text}

/-- An offer adds its distance to those of its word, if it is within the limit. -/
theorem distancesOf_concat_self (offers : List (Text × Nat)) (correction : Text)
    (hlimit : distance ≤ limit) :
    distancesOf (offers ++ [(correction, distance)]) limit correction =
      insert distance (distancesOf offers limit correction) := by
  ext other
  simp only [distancesOf, List.mem_append, List.mem_singleton, Prod.mk.injEq, true_and,
    Set.mem_ofPred_eq, Set.mem_insert_iff]
  constructor
  · rintro ⟨hbefore | rfl, hother⟩
    · exact .inr ⟨hbefore, hother⟩
    · exact .inl rfl
  · rintro (rfl | ⟨hbefore, hother⟩)
    · exact ⟨.inr rfl, hlimit⟩
    · exact ⟨.inl hbefore, hother⟩

/-- An offer of another word, or beyond the limit, adds no distance. -/
theorem distancesOf_concat_of_other (hother : word ≠ correction ∨ limit < distance) :
    distancesOf (offers ++ [(correction, distance)]) limit word =
      distancesOf offers limit word := by
  ext found
  simp only [distancesOf, List.mem_append, List.mem_singleton, Prod.mk.injEq, Set.mem_ofPred_eq]
  refine ⟨?_, fun h => ⟨.inl h.1, h.2⟩⟩
  rintro ⟨hbefore | ⟨rfl, rfl⟩, hfound⟩
  · exact ⟨hbefore, hfound⟩
  · rcases hother with hother | hfar
    · exact absurd rfl hother
    · omega

end Offers

variable {candidates : Candidates} {offers : List (Text × Nat)} {correction : Text} {distance : Nat}

/-! ### One correction -/

/-- A correction is added at its distance; the bounded search only saves work. -/
theorem add_eq_addAt (candidates : Candidates) (correction : Text) :
    candidates.add correction =
      candidates.addAt correction (Text.distance correction candidates.word) := by
  rw [add, distance?, Text.distanceWithin?_eq]
  split
  · rename_i found hfound
    split at hfound
    · rw [Option.some.inj hfound]
    · cases hfound
  · rename_i hnone
    split at hnone
    · cases hnone
    · rename_i hfar
      rw [addAt, if_pos]
      simp [Nat.not_le.mp hfar]

/-- Beyond the limit nothing is added, nor is the misspelt word itself. -/
theorem addAt_of_refused (hrefused : candidates.limit < distance ∨ correction = candidates.word) :
    (candidates.addAt correction distance).1 = candidates := by
  rw [addAt, if_pos (by simpa using hrefused)]

/-- A correction that has come before lowers what stands at its place. -/
theorem addAt_of_known {place : Nat}
    (hkept : ¬ (candidates.limit < distance ∨ correction = candidates.word))
    (hplace : candidates.order.idxOf? correction = some place) :
    (candidates.addAt correction distance).1 =
      { candidates with list := lowerAt candidates.list place distance } := by
  rw [addAt, if_neg (by simpa using hkept), hplace]

/-- A new correction comes last. -/
theorem addAt_of_new (hkept : ¬ (candidates.limit < distance ∨ correction = candidates.word))
    (hnew : candidates.order.idxOf? correction = none) :
    (candidates.addAt correction distance).1 =
      { candidates with
        list := candidates.list ++ [⟨correction, distance, .zero⟩]
        order := candidates.order ++ [correction] } := by
  rw [addAt, if_neg (by simpa using hkept), hnew]

/-- The places of arrival are those of the words in the list, in some order. -/
theorem perm_addAt (hperm : candidates.words.Perm candidates.order) (correction : Text)
    (distance : Nat) :
    (candidates.addAt correction distance).1.words.Perm
      (candidates.addAt correction distance).1.order := by
  by_cases hrefused : candidates.limit < distance ∨ correction = candidates.word
  · rwa [addAt_of_refused hrefused]
  · cases hplace : candidates.order.idxOf? correction with
    | some place =>
        rw [addAt_of_known hrefused hplace]
        exact (List.Perm.of_eq (map_word_lowerAt _ _ _)).trans hperm
    | none =>
        rw [addAt_of_new hrefused hplace, words, List.map_append]
        exact hperm.append_right [correction]

/-- A correction has come before exactly if it is in the list. -/
theorem mem_words_iff_idxOf? (hperm : candidates.words.Perm candidates.order) :
    correction ∈ candidates.words ↔ (candidates.order.idxOf? correction).isSome = true := by
  rw [hperm.mem_iff, List.isSome_idxOf?]

/-- With an offer that is kept, its word is among those offered. -/
theorem Lists.mem_words_concat (hlists : candidates.Lists offers)
    (hkept : ¬ (candidates.limit < distance ∨ correction = candidates.word)) (word : Text) :
    (word ∈ candidates.words ∨ word = correction) ↔ word ≠ candidates.word ∧
      (distancesOf (offers ++ [(correction, distance)]) candidates.limit word).Nonempty := by
  obtain ⟨hnear, hother⟩ := not_or.mp hkept
  by_cases hsame : word = correction
  · rw [hsame, distancesOf_concat_self offers correction (Nat.not_lt.mp hnear)]
    exact iff_of_true (.inr rfl) ⟨hother, Set.insert_nonempty _ _⟩
  · rw [distancesOf_concat_of_other (.inl hsame), ← hlists.mem_words, or_iff_left hsame]

/-- What is refused is no word offered. -/
theorem Lists.addAt_of_refused (hlists : candidates.Lists offers)
    (hrefused : candidates.limit < distance ∨ correction = candidates.word) :
    (candidates.addAt correction distance).1.Lists (offers ++ [(correction, distance)]) := by
  rw [Candidates.addAt_of_refused hrefused]
  refine ⟨hlists.nodup, fun word => (hlists.mem_words word).trans
    (and_congr_right fun hother => ?_)⟩
  rw [distancesOf_concat_of_other]
  exact hrefused.symm.imp_left fun hsame hword => hother (hword.trans hsame)

/-- A correction that has come before adds no word. -/
theorem Lists.addAt_of_known (hlists : candidates.Lists offers)
    (hperm : candidates.words.Perm candidates.order)
    (hkept : ¬ (candidates.limit < distance ∨ correction = candidates.word)) {place : Nat}
    (hplace : candidates.order.idxOf? correction = some place) :
    (candidates.addAt correction distance).1.Lists (offers ++ [(correction, distance)]) := by
  have hheld : correction ∈ candidates.words :=
    (mem_words_iff_idxOf? hperm).mpr (by rw [hplace]; rfl)
  have hsame : words { candidates with list := lowerAt candidates.list place distance } =
      candidates.words := map_word_lowerAt _ _ _
  rw [Candidates.addAt_of_known hkept hplace]
  refine ⟨hsame ▸ hlists.nodup, fun word => ?_⟩
  rw [hsame, ← hlists.mem_words_concat hkept]
  exact ⟨.inl, fun h => h.elim id fun h => h ▸ hheld⟩

/-- A new correction adds its word. -/
theorem Lists.addAt_of_new (hlists : candidates.Lists offers)
    (hperm : candidates.words.Perm candidates.order)
    (hkept : ¬ (candidates.limit < distance ∨ correction = candidates.word))
    (hnew : candidates.order.idxOf? correction = none) :
    (candidates.addAt correction distance).1.Lists (offers ++ [(correction, distance)]) := by
  have habsent : correction ∉ candidates.words := by
    rw [mem_words_iff_idxOf? hperm, hnew]
    exact Bool.false_ne_true
  rw [Candidates.addAt_of_new hkept hnew]
  have hmore : words { candidates with
        list := candidates.list ++ [⟨correction, distance, .zero⟩]
        order := candidates.order ++ [correction] } =
      candidates.words ++ [correction] := List.map_append
  refine ⟨?_, fun word => ?_⟩
  · rw [hmore, List.nodup_append]
    refine ⟨hlists.nodup, List.pairwise_singleton _ _, ?_⟩
    rintro word hword _ hlast rfl
    exact habsent (List.mem_singleton.mp hlast ▸ hword)
  · rw [hmore, List.mem_append, List.mem_singleton, hlists.mem_words_concat hkept]

/-- After an offer the candidates still hold just the words offered, each once. -/
theorem Lists.addAt (hperm : candidates.words.Perm candidates.order)
    (hlists : candidates.Lists offers) (correction : Text) (distance : Nat) :
    (candidates.addAt correction distance).1.Lists (offers ++ [(correction, distance)]) := by
  by_cases hrefused : candidates.limit < distance ∨ correction = candidates.word
  · exact hlists.addAt_of_refused hrefused
  · cases hplace : candidates.order.idxOf? correction with
    | some place => exact hlists.addAt_of_known hperm hrefused hplace
    | none => exact hlists.addAt_of_new hperm hrefused hplace

/-- A suggestion after the distance at a place is lowered. -/
theorem mem_lowerAt {list : List Suggestion} {place distance : Nat} {suggestion : Suggestion} :
    suggestion ∈ lowerAt list place distance ↔
      ∃ index held, list[index]? = some held ∧
        suggestion = if place = index then { held with distance := min held.distance distance }
          else held := by
  simp only [lowerAt, List.mem_iff_getElem?, List.getElem?_modify]
  refine exists_congr fun index => ?_
  cases list[index]? with
  | none => simp
  | some held =>
      split <;> simp [eq_comm]

/-- A word stands at one place only. -/
theorem index_eq_of_word_eq (hnodup : candidates.words.Nodup) {place index : Nat}
    {suggestion held : Suggestion} (hplace : candidates.list[place]? = some suggestion)
    (hindex : candidates.list[index]? = some held) (hword : held.word = suggestion.word) :
    place = index := by
  have hwords : candidates.words[place]? = candidates.words[index]? := by
    rw [words, List.getElem?_map, List.getElem?_map, hplace, hindex, Option.map_some,
      Option.map_some, hword]
  refine (List.getElem?_inj ?_ hnodup).mp hwords
  rw [words, List.length_map]
  exact (List.getElem?_eq_some_iff.mp hplace).1

/-- What is refused changes no distance. -/
theorem Records.addAt_of_refused (hrecords : candidates.Records offers)
    (hlists : (candidates.addAt correction distance).1.Lists (offers ++ [(correction, distance)]))
    (hrefused : candidates.limit < distance ∨ correction = candidates.word) :
    (candidates.addAt correction distance).1.Records (offers ++ [(correction, distance)]) := by
  refine ⟨hlists, ?_⟩
  rw [Candidates.addAt_of_refused hrefused]
  intro suggestion hsuggestion
  have hother : suggestion.word ≠ candidates.word :=
    ((hrecords.mem_words _).mp (List.mem_map_of_mem hsuggestion)).1
  rw [distancesOf_concat_of_other]
  · exact hrecords.isLeast suggestion hsuggestion
  · exact hrefused.symm.imp_left fun hsame hword => hother (hword.trans hsame)

/-- A new correction is recorded at its distance. -/
theorem Records.addAt_of_new (hrecords : candidates.Records offers)
    (hlists : (candidates.addAt correction distance).1.Lists (offers ++ [(correction, distance)]))
    (hperm : candidates.words.Perm candidates.order)
    (hkept : ¬ (candidates.limit < distance ∨ correction = candidates.word))
    (hnew : candidates.order.idxOf? correction = none) :
    (candidates.addAt correction distance).1.Records (offers ++ [(correction, distance)]) := by
  refine ⟨hlists, ?_⟩
  obtain ⟨hnear, hother⟩ := not_or.mp hkept
  have habsent : correction ∉ candidates.words := by
    rw [mem_words_iff_idxOf? hperm, hnew]
    exact Bool.false_ne_true
  rw [Candidates.addAt_of_new hkept hnew]
  intro suggestion hsuggestion
  rcases List.mem_append.mp hsuggestion with hold | hlast
  · have hword : suggestion.word ≠ correction := by
      rintro rfl
      exact habsent (List.mem_map_of_mem hold)
    rw [distancesOf_concat_of_other (.inl hword)]
    exact hrecords.isLeast suggestion hold
  · rw [List.mem_singleton.mp hlast, distancesOf_concat_self _ _ (Nat.not_lt.mp hnear)]
    have hnone : distancesOf offers candidates.limit correction = ∅ := by
      by_contra hsome
      exact habsent ((hrecords.mem_words _).mpr ⟨hother, Set.nonempty_iff_ne_empty.mpr hsome⟩)
    rw [hnone, insert_empty_eq]
    exact isLeast_singleton

/-- If a correction that has come before gets its distance, it is found. -/
theorem Records.found_of_addAt (hrecords : candidates.Records offers)
    (hafter : (candidates.addAt correction distance).1.Records (offers ++ [(correction, distance)]))
    (hkept : ¬ (candidates.limit < distance ∨ correction = candidates.word)) {place : Nat}
    {suggestion : Suggestion} (hplace : candidates.order.idxOf? correction = some place)
    (hsuggestion : candidates.list[place]? = some suggestion) :
    suggestion.word = correction ∨ suggestion.distance ≤ distance ∧
      ∀ held ∈ candidates.list, held.word = correction → held.distance ≤ distance := by
  rw [addAt_of_known hkept hplace] at hafter
  refine or_iff_not_imp_left.mpr fun hother => ⟨?_, ?_⟩
  · have hlowered := hafter.isLeast _ (mem_lowerAt.mpr ⟨place, suggestion, hsuggestion, rfl⟩)
    rw [if_pos rfl, distancesOf_concat_of_other (.inl hother)] at hlowered
    have hsame := hlowered.unique (hrecords.isLeast _ (List.mem_of_getElem? hsuggestion))
    dsimp only at hsame
    omega
  · intro held hheld hword
    obtain ⟨index, hindex⟩ := List.mem_iff_getElem?.mp hheld
    have hapart : place ≠ index := by
      rintro rfl
      rw [hindex, Option.some.injEq] at hsuggestion
      exact hother (hsuggestion ▸ hword)
    have hkeptThere := hafter.isLeast held (mem_lowerAt.mpr ⟨index, held, hindex,
      (if_neg hapart).symm⟩)
    rw [hword, distancesOf_concat_self offers correction
      (Nat.not_lt.mp (not_or.mp hkept).1)] at hkeptThere
    exact hkeptThere.2 (Set.mem_insert _ _)

/-- A correction that has come before gets its distance if it is found. -/
theorem Records.addAt_of_known (hrecords : candidates.Records offers)
    (hlists : (candidates.addAt correction distance).1.Lists (offers ++ [(correction, distance)]))
    (hkept : ¬ (candidates.limit < distance ∨ correction = candidates.word)) {place : Nat}
    {suggestion : Suggestion} (hplace : candidates.order.idxOf? correction = some place)
    (hsuggestion : candidates.list[place]? = some suggestion)
    (hfinds : suggestion.word = correction ∨ suggestion.distance ≤ distance ∧
      ∀ held ∈ candidates.list, held.word = correction → held.distance ≤ distance) :
    (candidates.addAt correction distance).1.Records (offers ++ [(correction, distance)]) := by
  have hnear : distance ≤ candidates.limit := Nat.not_lt.mp (not_or.mp hkept).1
  refine ⟨hlists, ?_⟩
  rw [Candidates.addAt_of_known hkept hplace]
  intro after hafter
  obtain ⟨index, held, hindex, rfl⟩ := mem_lowerAt.mp hafter
  have hleast := hrecords.isLeast held (List.mem_of_getElem? hindex)
  by_cases hword : held.word = correction
  · -- The distance offered is one more of the word: it is lowered here, or was no smaller.
    rw [hword] at hleast
    have hmore := hleast.insert distance
    rw [← distancesOf_concat_self offers correction hnear, min_comm] at hmore
    split
    · rwa [hword]
    · rename_i hapart
      rcases hfinds with hthere | ⟨-, hbefore⟩
      · exact absurd (index_eq_of_word_eq hrecords.nodup hsuggestion hindex
          (hword.trans hthere.symm)) hapart
      · rw [min_eq_left (hbefore held (List.mem_of_getElem? hindex) hword)] at hmore
        rwa [hword]
  · have hother : held.word ≠ correction ∨ candidates.limit < distance := .inl hword
    rw [← distancesOf_concat_of_other hother] at hleast
    split
    · rename_i hsame
      subst hsame
      obtain rfl : held = suggestion := Option.some.inj (hindex.symm.trans hsuggestion)
      rw [min_eq_left (hfinds.resolve_left hword).1]
      exact hleast
    · exact hleast

/-- After an offer the distances are right exactly if a correction that has come before is found. -/
theorem Records.addAt_iff (hperm : candidates.words.Perm candidates.order)
    (hrecords : candidates.Records offers) (correction : Text) (distance : Nat) :
    (candidates.addAt correction distance).1.Records (offers ++ [(correction, distance)]) ↔
      candidates.Finds correction distance := by
  have hlists := Lists.addAt hperm hrecords.toLists correction distance
  by_cases hrefused : candidates.limit < distance ∨ correction = candidates.word
  · refine iff_of_true (hrecords.addAt_of_refused hlists hrefused) ?_
    intro place suggestion hplace hsuggestion
    -- What has come before is near and is not the misspelt word, so it was refused as too far.
    have hheld : correction ∈ candidates.words :=
      (mem_words_iff_idxOf? hperm).mpr (by rw [hplace]; rfl)
    have hfar := hrefused.resolve_right ((hrecords.mem_words _).mp hheld).1
    have hlower : ∀ held ∈ candidates.list, held.distance ≤ distance := fun held hmem =>
      Nat.le_of_lt (Nat.lt_of_le_of_lt (hrecords.isLeast held hmem).1.2 hfar)
    exact .inr ⟨hlower _ (List.mem_of_getElem? hsuggestion), fun held hmem _ => hlower held hmem⟩
  · cases hplace : candidates.order.idxOf? correction with
    | none =>
        refine iff_of_true (hrecords.addAt_of_new hlists hperm hrefused hplace) ?_
        intro place suggestion hfound
        rw [hplace] at hfound
        cases hfound
    | some place =>
        have hlength : place < candidates.list.length := by
          rw [← List.length_map (f := (·.word)), ← words, hperm.length_eq]
          exact (List.idxOf?_eq_some_iff.mp hplace).1
        have hthere := List.getElem?_eq_getElem hlength
        constructor
        · intro hafter other suggestion hother hsuggestion
          obtain rfl : place = other := Option.some.inj (hplace.symm.trans hother)
          exact hrecords.found_of_addAt hafter hrefused hplace hsuggestion
        · intro hfinds
          exact hrecords.addAt_of_known hlists hrefused hplace hthere (hfinds place _ hplace hthere)

/-! ### Corrections without ranking -/

/-- As long as nothing is ranked, a correction that comes again is found. -/
theorem Tidy.finds (htidy : candidates.Tidy) (correction : Text) (distance : Nat) :
    candidates.Finds correction distance := by
  intro place suggestion hplace hsuggestion
  obtain ⟨hlength, hword, -⟩ := List.idxOf?_eq_some_iff.mp hplace
  have hthere := List.getElem?_eq_getElem hlength
  rw [hword, ← htidy.words_eq, words, List.getElem?_map, hsuggestion] at hthere
  exact .inl (Option.some.inj hthere)

/-- Adds corrections at known distances one after the other. -/
def addOffers (candidates : Candidates) (offers : List (Text × Nat)) : Candidates :=
  offers.foldl (fun candidates offer => (candidates.addAt offer.1 offer.2).1) candidates

/-- Nothing is offered at first. -/
theorem records_start (word : Text) (limit : Nat) : (start word limit).Records [] :=
  { nodup := List.nodup_nil
    mem_words := fun _ => by simp [words, start, distancesOf]
    isLeast := fun _ hsuggestion => by cases hsuggestion }

/-- Offers leave the word to be corrected and the limit. -/
theorem addOffers_fixed (candidates : Candidates) (offers : List (Text × Nat)) :
    (candidates.addOffers offers).word = candidates.word ∧
      (candidates.addOffers offers).limit = candidates.limit := by
  induction offers generalizing candidates with
  | nil => exact ⟨rfl, rfl⟩
  | cons offer offers ih =>
      obtain ⟨hword, hlimit⟩ := addAt_fixed candidates offer.1 offer.2
      obtain ⟨hwords, hlimits⟩ := ih (candidates.addAt offer.1 offer.2).1
      exact ⟨hwords.trans hword, hlimits.trans hlimit⟩

/-- Corrections are offered at their distances. -/
theorem addAll_eq_addOffers (candidates : Candidates) (corrections : List Text) :
    candidates.addAll corrections = candidates.addOffers (corrections.map fun correction =>
      (correction, Text.distance correction candidates.word)) := by
  induction corrections generalizing candidates with
  | nil => rfl
  | cons correction corrections ih =>
      have hword := (addAt_fixed candidates correction
        (Text.distance correction candidates.word)).1
      rw [addAll, List.foldl_cons, ← addAll, add_eq_addAt, ih, hword]
      rfl

/-- Capitalized corrections are offered at the distances at which they were found. -/
theorem capitalized_eq_addOffers (word : Text) (limit : Nat) (found : List Suggestion) :
    capitalized word limit found = (start word limit).addOffers (found.map fun suggestion =>
      (suggestion.word.upperFirst, suggestion.distance)) := by
  rw [capitalized, addOffers, List.foldl_map]

/-- Without ranking, each word offered within the limit is recorded at its smallest distance. -/
theorem records_addOffers (word : Text) (limit : Nat) (offers : List (Text × Nat)) :
    ((start word limit).addOffers offers).Tidy ∧
      ((start word limit).addOffers offers).Records offers := by
  induction offers using List.reverseRecOn with
  | nil => exact ⟨tidy_start word limit, records_start word limit⟩
  | append_singleton offers offer ih =>
      obtain ⟨htidy, hrecords⟩ := ih
      rw [addOffers, List.foldl_append, ← addOffers]
      exact ⟨htidy.addAt offer.1 offer.2,
        (hrecords.addAt_iff (.of_eq htidy.words_eq) offer.1 offer.2).mpr
          (htidy.finds offer.1 offer.2)⟩

/-! ### Ranking -/

@[simp] theorem word_rank (candidates : Candidates) (frequencies : Frequencies) :
    (candidates.rank frequencies).word = candidates.word := rfl

@[simp] theorem limit_rank (candidates : Candidates) (frequencies : Frequencies) :
    (candidates.rank frequencies).limit = candidates.limit := rfl

/-- Ranking gives weights to the suggestions and puts them in order. -/
theorem mem_list_rank {frequencies : Frequencies} {suggestion : Suggestion} :
    suggestion ∈ (candidates.rank frequencies).list ↔
      ∃ held ∈ candidates.list,
        { held with weight := frequencies.foldedWeight held.word } = suggestion := by
  rw [rank, List.mem_mergeSort, List.mem_map]

/-- Ranking changes no word. -/
theorem Lists.rank (hlists : candidates.Lists offers) (frequencies : Frequencies) :
    (candidates.rank frequencies).Lists offers where
  nodup := (words_rank_perm candidates frequencies).nodup_iff.mpr hlists.nodup
  mem_words word := (words_rank_perm candidates frequencies).mem_iff.trans (hlists.mem_words word)

/-- Ranking changes no distance. -/
theorem Records.rank (hrecords : candidates.Records offers) (frequencies : Frequencies) :
    (candidates.rank frequencies).Records offers where
  toLists := hrecords.toLists.rank frequencies
  isLeast suggestion hsuggestion := by
    obtain ⟨held, hheld, rfl⟩ := mem_list_rank.mp hsuggestion
    exact hrecords.isLeast held hheld

/-! ### What is recorded -/

/-- A word is recorded at a distance exactly if that is the smallest at which it is offered. -/
theorem Records.exists_mem_iff (hrecords : candidates.Records offers) {word : Text} :
    (∃ suggestion ∈ candidates.list, suggestion.word = word ∧ suggestion.distance = distance) ↔
      word ≠ candidates.word ∧ IsLeast (distancesOf offers candidates.limit word) distance := by
  constructor
  · rintro ⟨suggestion, hsuggestion, rfl, rfl⟩
    have hword := List.mem_map_of_mem (f := (·.word)) hsuggestion
    exact ⟨((hrecords.mem_words _).mp hword).1, hrecords.isLeast suggestion hsuggestion⟩
  · rintro ⟨hother, hleast⟩
    obtain ⟨suggestion, hsuggestion, rfl⟩ :=
      List.mem_map.mp ((hrecords.mem_words word).mpr ⟨hother, distance, hleast.1⟩)
    exact ⟨suggestion, hsuggestion, rfl, (hrecords.isLeast suggestion hsuggestion).unique hleast⟩

/-- A word that is offered within the limit is recorded at the smallest distance. -/
theorem exists_mem_addOffers_iff {limit : Nat} {word other : Text} :
    (∃ suggestion ∈ ((start word limit).addOffers offers).list,
        suggestion.word = other ∧ suggestion.distance = distance) ↔
      other ≠ word ∧ IsLeast (distancesOf offers limit other) distance := by
  obtain ⟨hword, hlimit⟩ := addOffers_fixed (start word limit) offers
  rw [(records_addOffers word limit offers).2.exists_mem_iff, hword, hlimit]
  rfl

end Candidates

end Orthography
