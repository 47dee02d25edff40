import Orthography.Pattern.Reader
import Orthography.Proofs.Pattern.Brackets
import Orthography.Proofs.Pattern.Embedding

/-!
# Repetitions and openings inside a longer pattern

A counted repetition ends in a brace and the opening of a group in one of few signs, so that the
parenthesis behind a pattern is neither part of a repetition nor of an opening that the pattern has
alone.
-/

namespace Orthography.Pattern

open Character (isBlank)

variable {offset : Nat} {tail : Text} {cursor behind : Cursor} {spaced : Bool}

/-! ### Counted repetitions -/

/-- Where something of the pattern is left behind blanks, the same is left in the longer one. -/
theorem dropBlanks_embed {chars others : List (Char × Nat)} {next : Char × Nat} (offset : Nat)
    (more : List (Char × Nat)) (hnext : dropBlanks chars = next :: others) :
    dropBlanks (chars.map (moved offset) ++ more) =
      moved offset next :: (others.map (moved offset) ++ more) := by
  unfold dropBlanks at hnext ⊢
  have hmoved : (chars.map (moved offset)).dropWhile (isBlank ·.1) =
      (next :: others).map (moved offset) := by
    rw [← hnext, List.dropWhile_map]
    rfl
  rw [List.dropWhile_append, hmoved, if_neg (by simp), List.map_cons, List.cons_append]

/-- A count with something of the pattern behind it. -/
theorem scanDecimal_embed {final value : Nat} {chars others : List (Char × Nat)} {next : Char × Nat}
    (offset longer : Nat) (more : List (Char × Nat))
    (hscan : scanDecimal final chars = (.ok value, next :: others)) :
    scanDecimal longer (chars.map (moved offset) ++ more) =
      (.ok value, moved offset next :: (others.map (moved offset) ++ more)) := by
  unfold scanDecimal at hscan ⊢
  dsimp only at hscan ⊢
  obtain ⟨hresult, hbehind⟩ := Prod.mk.inj hscan
  cases hbegun : dropBlanks chars with
  | nil =>
      rw [hbegun] at hbehind
      cases hbehind
  | cons first digits =>
      rw [hbegun] at hresult hbehind
      cases hends : (first :: digits).drop ((first :: digits).takeWhile (·.1.isDigit)).length with
      | nil =>
          rw [hends] at hbehind
          cases hbehind
      | cons ends rest =>
          rw [hends] at hbehind
          obtain ⟨hdigits, hdrop⟩ := takeWhile_embed Char.isDigit offset more hends
          have hrest := dropBlanks_embed offset more hbehind
          rw [List.map_cons, List.cons_append] at hdigits hdrop hrest
          rw [dropBlanks_embed offset more hbegun, hdigits, List.length_map, hdrop, hrest,
            List.isEmpty_map, map_fst_moved]
          split at hresult
          · cases hresult
          · rename_i hsome
            rw [if_neg hsome]
            split at hresult
            · rename_i hfits
              rw [if_pos hfits, hresult]
            · cases hresult

/-- What the braces of a counted repetition say, and where the closing one is with what follows
it. -/
inductive Counts (final : Nat) (inside : List (Char × Nat)) :
    Nat → Option Nat → Nat → List (Char × Nat) → Prop
  | exactly {least closed : Nat} {after : List (Char × Nat)}
      (hleast : scanDecimal final inside = (.ok least, ('}', closed) :: after)) :
      Counts final inside least (some least) closed after
  | atLeast {least comma closed : Nat} {after : List (Char × Nat)}
      (hleast : scanDecimal final inside = (.ok least, (',', comma) :: ('}', closed) :: after)) :
      Counts final inside least none closed after
  | between {least most comma closed : Nat} {others after : List (Char × Nat)}
      (hleast : scanDecimal final inside = (.ok least, (',', comma) :: others))
      (hmost : scanDecimal final others = (.ok most, ('}', closed) :: after)) :
      Counts final inside least (some most) closed after

/-- Between braces that say how often stands something. -/
theorem Counts.ne_nil {final least closed : Nat} {most : Option Nat}
    {inside after : List (Char × Nat)} (hcounts : Counts final inside least most closed after) :
    inside ≠ [] := by
  rintro rfl
  cases hcounts with
  | exactly hleast => cases hleast
  | atLeast hleast => cases hleast
  | between hleast hmost => cases hleast

/-- A counted repetition is read exactly if its braces say how often, with the bounds in order. -/
theorem scanCounted_eq_ok_iff {least : Nat} {most : Option Nat} {greedy : Bool} :
    scanCounted spaced cursor = .ok (⟨least, most, greedy⟩, behind) ↔
      ∃ closed after, Counts cursor.endPosition ((cursor.skip 1).counting spaced) least most closed
          after ∧ ¬ most.getD least < least ∧ greedy = (scanReluctance closed after).1 ∧
        behind = cursor.moveTo (scanReluctance closed after).2 := by
  constructor
  · intro hscan
    unfold scanCounted at hscan
    dsimp only at hscan
    split at hscan
    · cases hscan
    · split at hscan
      · cases hscan
      · generalize hdecimal : scanDecimal cursor.endPosition ((cursor.skip 1).counting spaced) =
          decimal at hscan
        obtain ⟨result, chars⟩ := decimal
        dsimp only at hscan
        split at hscan
        · split at hscan
          · cases hscan
          · obtain ⟨least, hleast, hscan⟩ := eq_ok_of_bind hscan
            split at hscan
            · rename_i hsame
              cases hsame
              split at hscan
              · cases hscan
              · rename_i horder
                cases hscan
                exact ⟨_, _, .atLeast (hleast ▸ hdecimal), horder, rfl, rfl⟩
            · cases hscan
            · cases hscan
          · obtain ⟨least, hleast, hscan⟩ := eq_ok_of_bind hscan
            obtain ⟨most, hmost, hscan⟩ := eq_ok_of_bind hscan
            split at hscan
            · rename_i closed after hclosed
              split at hscan
              · cases hscan
              · rename_i horder
                cases hscan
                exact ⟨_, _, .between (hleast ▸ hdecimal) (Prod.ext hmost hclosed), horder, rfl,
                  rfl⟩
            · cases hscan
            · cases hscan
        · obtain ⟨least, hleast, hscan⟩ := eq_ok_of_bind hscan
          split at hscan
          · split at hscan
            · cases hscan
            · rename_i horder
              cases hscan
              exact ⟨_, _, .exactly (hleast ▸ hdecimal), horder, rfl, rfl⟩
          · cases hscan
          · cases hscan
  · rintro ⟨closed, after, hcounts, horder, rfl, rfl⟩
    have hinside := hcounts.ne_nil
    unfold scanCounted
    cases hcounts with
    | exactly hleast => simp [hleast, hinside, bind, Except.bind]
    | atLeast hleast => simp [hleast, hinside, bind, Except.bind]
    | between hleast hmost =>
        rename_i others
        rcases others with - | ⟨⟨c, position⟩, others⟩
        · cases hmost
        · have hbrace : c ≠ '}' := by
            rintro rfl
            cases hmost
          simpa [hleast, hmost, hinside, hbrace, bind, Except.bind] using horder

/-- What the braces of a pattern say, they say in the longer pattern. -/
theorem Counts.embed {final least closed : Nat} {most : Option Nat}
    {inside after : List (Char × Nat)} (offset longer : Nat) (more : List (Char × Nat))
    (hcounts : Counts final inside least most closed after) :
    Counts longer (inside.map (moved offset) ++ more) least most (closed + offset)
      (after.map (moved offset) ++ more) := by
  cases hcounts with
  | exactly hleast => exact .exactly (scanDecimal_embed offset longer more hleast)
  | atLeast hleast => exact .atLeast (scanDecimal_embed offset longer more hleast)
  | between hleast hmost =>
      exact .between (scanDecimal_embed offset longer more hleast)
        (scanDecimal_embed offset longer more hmost)

/-- What follows a count is an end of what stands between the braces. -/
theorem scanDecimal_suffix (final : Nat) (chars : List (Char × Nat)) :
    (scanDecimal final chars).2 <:+ chars :=
  ((List.dropWhile_suffix _).trans (List.drop_suffix _ _)).trans (List.dropWhile_suffix _)

/-- The closing brace and what follows it are an end of what stands between the braces. -/
theorem Counts.suffix {final least closed : Nat} {most : Option Nat}
    {inside after : List (Char × Nat)} (hcounts : Counts final inside least most closed after) :
    ('}', closed) :: after <:+ inside := by
  cases hcounts with
  | exactly hleast => simpa [hleast] using scanDecimal_suffix final inside
  | atLeast hleast =>
      have hsuffix := scanDecimal_suffix final inside
      rw [hleast] at hsuffix
      exact (List.suffix_cons _ _).trans hsuffix
  | between hleast hmost =>
      rename_i others
      have hfirst := scanDecimal_suffix final inside
      have hsecond := scanDecimal_suffix final others
      rw [hleast] at hfirst
      rw [hmost] at hsecond
      exact hsecond.trans ((List.suffix_cons _ _).trans hfirst)

/-- A counted repetition ends in its closing brace or in a question mark behind it. -/
theorem exists_mem_scanReluctance (closed : Nat) (after : List (Char × Nat)) :
    ∃ entry ∈ ('}', closed) :: after, (scanReluctance closed after).2 = entry.2 + 1 := by
  unfold scanReluctance
  split
  · exact ⟨_, List.mem_cons_of_mem _ List.mem_cons_self, rfl⟩
  · exact ⟨_, List.mem_cons_self, rfl⟩

/-- No question mark comes to stand behind a closing brace. -/
theorem scanReluctance_embed {closed : Nat} {after more : List (Char × Nat)}
    (hmore : Follows cursor offset more) :
    scanReluctance (closed + offset) (after.map (moved offset) ++ more) =
      ((scanReluctance closed after).1, (scanReluctance closed after).2 + offset) := by
  rcases after with - | ⟨⟨c, position⟩, after⟩
  · obtain rfl | ⟨others, rfl⟩ := hmore <;> simp [scanReluctance, Nat.add_right_comm]
  · by_cases hc : c = '?'
    · subst hc
      simp [scanReluctance, moved, Nat.add_right_comm]
    · simp [scanReluctance, moved, hc, Nat.add_right_comm]

/-- Counted repetitions. -/
theorem scanCounted_embed (htail : Closing tail) {repetition : Repetition} {c : Char} {rest : Text}
    (hstart : cursor.rest = c :: rest)
    (hscan : scanCounted spaced cursor = .ok (repetition, behind)) :
    scanCounted spaced (cursor.embed offset tail) =
      .ok (repetition, behind.embed offset tail) := by
  obtain ⟨least, most, greedy⟩ := repetition
  obtain ⟨closed, after, hcounts, horder, rfl, rfl⟩ := scanCounted_eq_ok_iff.mp hscan
  have hone := one_le_length hstart
  obtain ⟨more, hcounting, hmore⟩ := exists_counting_embed htail offset (cursor.skip 1) spaced
  refine scanCounted_eq_ok_iff.mpr ⟨closed + offset, after.map (moved offset) ++ more, ?_, horder,
    ?_, ?_⟩
  · rw [skip_embed hone, hcounting]
    exact hcounts.embed offset _ more
  · rw [scanReluctance_embed hmore]
  · obtain ⟨entry, hentry, hstop⟩ := exists_mem_scanReluctance closed after
    have hlt := lt_endPosition_of_mem_counting (hcounts.suffix.subset hentry)
    rw [endPosition_skip hone] at hlt
    rw [scanReluctance_embed hmore, moveTo_embed]
    omega

/-! ### Flags -/

/-- Flags at their place in the longer pattern. -/
def FlagList.moved (offset : Nat) (list : FlagList) : FlagList :=
  ⟨list.flags.map fun (sign, value, position) => (sign, value, position + offset),
    list.minus.map (· + offset)⟩

/-- Where flags stand does not matter to what they set. -/
theorem Flags.apply_moved (flags : Flags) (list : FlagList) (offset : Nat) :
    flags.apply (list.moved offset) = flags.apply list := by
  rw [Flags.apply, FlagList.moved, List.foldl_map, Flags.apply]

/-- Flags up to a colon or a parenthesis of the pattern. -/
theorem scanFlags_embed {position : Nat} {read list : FlagList} {afterMinus : Bool} {text : Text}
    {final : Char} (hscan : scanFlags position read afterMinus text = .ok (list, final, behind)) :
    scanFlags (position + offset) (read.moved offset) afterMinus (text ++ tail) =
      .ok (list.moved offset, final, behind.embed offset tail) := by
  induction text generalizing position read afterMinus with
  | nil => cases hscan
  | cons c text ih =>
      have hnext : position + offset + 1 = position + 1 + offset := by omega
      rw [List.cons_append]
      unfold scanFlags at hscan ⊢
      rw [hnext]
      obtain ⟨flags, minus⟩ := read
      split at hscan
      · rename_i hends
        rw [if_pos hends]
        cases afterMinus <;> cases minus <;> cases hscan <;> rfl
      · rename_i hends
        rw [if_neg hends]
        split at hscan
        · rename_i hhyphen
          rw [if_pos hhyphen]
          cases minus with
          | none => exact ih hscan
          | some minus => cases hscan
        · rename_i hhyphen
          rw [if_neg hhyphen]
          split at hscan
          · cases hscan
          · rename_i flag hflag
            split at hscan
            · cases hscan
            · rename_i hnew
              have hfind : (FlagList.moved offset ⟨flags, minus⟩).flags.find? (·.1 == flag) =
                  none := by
                rw [FlagList.moved, List.find?_map, Option.map_eq_none_iff]
                exact hnew
              rw [hfind]
              simpa [FlagList.moved] using ih hscan

/-! ### Names and openings -/

/-- What a left parenthesis opens, at its place in the longer pattern. -/
def Opening.moved (offset : Nat) : Opening → Opening
  | capture none => capture none
  | capture (some (name, span)) =>
    capture (some (name, ⟨span.start + offset, span.stop + offset⟩))
  | group list => group (list.moved offset)
  | flags list => flags (list.moved offset)

/-- The name of a group. -/
theorem scanName_embed {name : Text} {span : Span}
    (hscan : scanName cursor = .ok (name, span, behind)) :
    scanName (cursor.embed offset tail) =
      .ok (name, ⟨span.start + offset, span.stop + offset⟩, behind.embed offset tail) := by
  unfold scanName at hscan ⊢
  dsimp only at hscan ⊢
  split at hscan
  · cases hscan
  · rename_i hparts
    split at hscan
    · cases hscan
    · rename_i hinside
      split at hscan
      · cases hscan
      · rename_i hsome
        cases hscan
        have hlength : (cursor.rest.takeWhile (· != '>')).length < cursor.rest.length := by
          have hle := (List.takeWhile_prefix (l := cursor.rest) (· != '>')).length_le
          rw [beq_iff_eq] at hinside
          omega
        have hname : (cursor.rest ++ tail).takeWhile (· != '>') =
            cursor.rest.takeWhile (· != '>') := by
          rw [List.takeWhile_append, if_neg hlength.ne]
        rw [Cursor.embed, hname, hparts]
        dsimp only
        rw [if_neg, if_neg hsome, ← Cursor.embed, skip_embed hlength]
        · rw [Nat.add_right_comm]
        · rw [beq_iff_eq, List.length_append]
          omega

/-- The parenthesis behind the pattern is no part of what it starts with. -/
theorem isPrefixOf_embed (htail : Closing tail) {start : Text} (hstart : ')' ∉ start)
    (text : Text) : start.isPrefixOf (text ++ tail) = start.isPrefixOf text := by
  rw [Bool.eq_iff_iff, List.isPrefixOf_iff_prefix, List.isPrefixOf_iff_prefix]
  induction text generalizing start with
  | nil =>
      rcases start with - | ⟨c, start⟩
      · simp
      · have hc : c ≠ ')' := by
          rintro rfl
          exact hstart List.mem_cons_self
        cases htail <;> simp [hc]
  | cons d text ih =>
      rcases start with - | ⟨c, start⟩
      · simp
      · rw [List.cons_append, List.cons_prefix_cons, List.cons_prefix_cons,
          ih fun hmember => hstart (List.mem_cons_of_mem c hmember)]

/-- The beginnings of groups with a name. -/
def nameSigns : List Text := [['?', 'P', '<'], ['?', '<']]

/-- What is opened by what stands behind a left parenthesis, and what is left behind the opening: a
group with a name, a group with flags, flags alone, or a plain group. -/
inductive Opens (inside : Cursor) : Opening → Cursor → Prop
  | named {sign name : Text} {span : Span} {behind : Cursor}
      (hsign : nameSigns.find? (·.isPrefixOf inside.rest) = some sign)
      (hname : scanName (inside.skip sign.length) = .ok (name, span, behind)) :
      Opens inside (.capture (some (name, span))) behind
  | group {text : Text} {list : FlagList} {behind : Cursor}
      (hsign : nameSigns.find? (·.isPrefixOf inside.rest) = none)
      (hquestion : inside.rest = '?' :: text)
      (hflags : scanFlags (inside.position + 1) ⟨[], none⟩ false text = .ok (list, ':', behind)) :
      Opens inside (.group list) behind
  | flags {text : Text} {list : FlagList} {final : Char} {behind : Cursor}
      (hsign : nameSigns.find? (·.isPrefixOf inside.rest) = none)
      (hquestion : inside.rest = '?' :: text)
      (hflags : scanFlags (inside.position + 1) ⟨[], none⟩ false text = .ok (list, final, behind))
      (hfinal : final ≠ ':') (hset : (list.flags.isEmpty && list.minus.isNone) = false) :
      Opens inside (.flags list) behind
  | plain (hsign : nameSigns.find? (·.isPrefixOf inside.rest) = none)
      (hquestion : ∀ text, inside.rest ≠ '?' :: text) : Opens inside (.capture none) inside

/-- Where flags end there is something that they end in. -/
theorem isEmpty_of_scanFlags {position : Nat} {read list : FlagList} {afterMinus : Bool}
    {text : Text} {final : Char}
    (hscan : scanFlags position read afterMinus text = .ok (list, final, behind)) :
    text.isEmpty = false := by
  cases text with
  | nil => cases hscan
  | cons c text => rfl

/-- A left parenthesis opens something exactly if it does not look around. -/
theorem scanOpening_eq_ok_iff {opening : Opening} :
    scanOpening spaced cursor = .ok (opening, behind) ↔
      lookAroundSigns.find? (·.isPrefixOf ((cursor.skip 1).settle spaced).rest) = none ∧
        Opens ((cursor.skip 1).settle spaced) opening behind := by
  unfold scanOpening
  dsimp only
  rw [← nameSigns]
  generalize (cursor.skip 1).settle spaced = inside
  constructor
  · intro hscan
    split at hscan
    · cases hscan
    · rename_i hlook
      refine ⟨hlook, ?_⟩
      split at hscan
      · rename_i hsign
        obtain ⟨⟨name, span, behind⟩, hname, hscan⟩ := eq_ok_of_bind hscan
        cases hscan
        exact .named hsign hname
      · rename_i hsign hquestion
        split at hscan
        · cases hscan
        · obtain ⟨⟨list, final, behind⟩, hflags, hscan⟩ := eq_ok_of_bind hscan
          dsimp only at hscan
          split at hscan
          · rename_i hfinal
            rw [beq_iff_eq] at hfinal
            subst hfinal
            cases hscan
            exact .group hsign hquestion hflags
          · rename_i hfinal
            split at hscan
            · cases hscan
            · rename_i hset
              cases hscan
              exact .flags hsign hquestion hflags (by simpa using hfinal)
                (Bool.eq_false_iff.mpr hset)
      · rename_i hsign hquestion
        cases hscan
        exact .plain hsign hquestion
  · rintro ⟨hlook, hopens⟩
    rw [hlook]
    cases hopens with
    | named hsign hname => simp only [hsign, hname]; rfl
    | group hsign hquestion hflags =>
        have hsome := ne_true_of_eq_false (isEmpty_of_scanFlags hflags)
        rw [hsign, hquestion]
        simp only [if_neg hsome, hflags]
        rfl
    | flags hsign hquestion hflags hfinal hset =>
        have hsome := ne_true_of_eq_false (isEmpty_of_scanFlags hflags)
        rw [← beq_eq_false_iff_ne] at hfinal
        rw [hsign, hquestion]
        simp only [if_neg hsome, hflags, bind, Except.bind, hfinal, hset]
        rfl
    | plain hsign hquestion =>
        simp only [hsign]
        rfl

/-- Which of some signs a text starts with does not depend on the parenthesis behind it. -/
theorem find?_isPrefixOf_embed (htail : Closing tail) {signs : List Text}
    (hsigns : ∀ sign ∈ signs, ')' ∉ sign) (text : Text) :
    signs.find? (·.isPrefixOf (text ++ tail)) = signs.find? (·.isPrefixOf text) := by
  induction signs with
  | nil => rfl
  | cons sign signs ih =>
      rw [List.find?_cons, List.find?_cons,
        isPrefixOf_embed htail (hsigns sign List.mem_cons_self),
        ih fun other hother => hsigns other (List.mem_cons_of_mem sign hother)]

/-- What is opened in the pattern is opened in the longer one, where something of the pattern stands
behind the parenthesis. -/
theorem Opens.embed (htail : Closing tail) {inside : Cursor} (hinside : inside.rest ≠ [])
    {opening : Opening} (hopens : Opens inside opening behind) :
    Opens (inside.embed offset tail) (opening.moved offset) (behind.embed offset tail) := by
  have hnames : nameSigns.find? (·.isPrefixOf (inside.embed offset tail).rest) =
      nameSigns.find? (·.isPrefixOf inside.rest) :=
    find?_isPrefixOf_embed htail (by decide) inside.rest
  have hflagged {text : Text} (hquestion : inside.rest = '?' :: text) :
      (inside.embed offset tail).rest = '?' :: (text ++ tail) := by
    rw [Cursor.embed, hquestion, List.cons_append]
  have hposition : (inside.embed offset tail).position + 1 = inside.position + 1 + offset :=
    Nat.add_right_comm _ _ _
  cases hopens with
  | named hsign hname =>
      rename_i sign name span
      have hprefix : sign.isPrefixOf inside.rest = true := by simpa using List.find?_some hsign
      have hlength : sign.length ≤ inside.rest.length :=
        (List.isPrefixOf_iff_prefix.mp hprefix).length_le
      refine .named (hnames.trans hsign) ?_
      rw [skip_embed hlength]
      exact scanName_embed hname
  | group hsign hquestion hflags =>
      refine .group (hnames.trans hsign) (hflagged hquestion) ?_
      rw [hposition]
      exact scanFlags_embed hflags
  | flags hsign hquestion hflags hfinal hset =>
      refine .flags (hnames.trans hsign) (hflagged hquestion) ?_ hfinal ?_
      · rw [hposition]
        exact scanFlags_embed hflags
      · rwa [FlagList.moved, List.isEmpty_map, Option.isNone_map]
  | plain hsign hquestion =>
      refine .plain (hnames.trans hsign) ?_
      obtain ⟨d, rest, hrest⟩ := List.exists_cons_of_ne_nil hinside
      intro text htext
      rw [Cursor.embed, hrest] at htext
      cases htext
      exact hquestion rest hrest

/-- The openings of groups, where something of the pattern counts behind the parenthesis. -/
theorem scanOpening_embed (htail : Closing tail) {opening : Opening} {c : Char} {rest : Text}
    (hstart : cursor.rest = c :: rest) (hinside : ((cursor.skip 1).settle spaced).rest ≠ [])
    (hscan : scanOpening spaced cursor = .ok (opening, behind)) :
    scanOpening spaced (cursor.embed offset tail) =
      .ok (opening.moved offset, behind.embed offset tail) := by
  obtain ⟨hlook, hopens⟩ := scanOpening_eq_ok_iff.mp hscan
  rw [scanOpening_eq_ok_iff, skip_embed (one_le_length hstart), settle_embed htail hinside]
  exact ⟨(find?_isPrefixOf_embed htail (by decide) _).trans hlook, hopens.embed htail hinside⟩

end Orthography.Pattern
