import Orthography.Proofs.Pattern.Escapes

/-!
# Signs inside a longer pattern

A pattern may be written into a longer one, with something in front of it and a closing parenthesis
behind it.  A scanner that reads a sign of the pattern alone reads the same sign there, and stops at
the same place: what it looks at ahead is never the closing parenthesis.  The one thing that a
parenthesis cannot end is a comment.
-/

namespace Orthography.Pattern

open Character (isBlank)

/-- What closes the group that a pattern is written into, with an anchor behind it or without. -/
inductive Closing : Text → Prop
  | group : Closing [')']
  | anchored : Closing [')', '$']

/-- A closing starts with its parenthesis. -/
theorem Closing.eq_cons {tail : Text} (htail : Closing tail) : ∃ others, tail = ')' :: others := by
  cases htail <;> exact ⟨_, rfl⟩

/-- The first character of a closing is its parenthesis. -/
theorem Closing.head?_eq {tail : Text} (htail : Closing tail) : tail.head? = some ')' := by
  obtain ⟨others, rfl⟩ := htail.eq_cons
  rfl

/-- The place of a cursor in the longer pattern: there are `offset` more characters in front, and
the text goes on with a tail. -/
def Cursor.embed (offset : Nat) (tail : Text) (cursor : Cursor) : Cursor :=
  ⟨cursor.rest ++ tail, cursor.position + offset⟩

/-- The place of a character in the longer pattern. -/
def moved (offset : Nat) (entry : Char × Nat) : Char × Nat := (entry.1, entry.2 + offset)

/-- The characters themselves stay as they are. -/
@[simp] theorem map_fst_moved (offset : Nat) (chars : List (Char × Nat)) :
    (chars.map (moved offset)).map (·.1) = chars.map (·.1) := by
  rw [List.map_map]
  rfl

variable {offset : Nat} {tail : Text} {cursor behind : Cursor} {spaced : Bool}

/-! ### Moving on -/

/-- Where there is a first character there is at least one. -/
theorem one_le_length {c : Char} {rest : Text} (hstart : cursor.rest = c :: rest) :
    1 ≤ cursor.rest.length := by
  rw [hstart, List.length_cons]
  exact Nat.le_add_left 1 _

/-- Characters of the pattern are passed over alike. -/
theorem skip_embed {n : Nat} (hn : n ≤ cursor.rest.length) :
    (cursor.embed offset tail).skip n = (cursor.skip n).embed offset tail := by
  simp only [Cursor.embed, Cursor.skip, List.drop_append_of_le_length hn, Cursor.mk.injEq,
    true_and]
  omega

/-- Passing over characters of the pattern does not move its end. -/
theorem endPosition_skip {n : Nat} (hn : n ≤ cursor.rest.length) :
    (cursor.skip n).endPosition = cursor.endPosition := by
  simp only [Cursor.endPosition, Cursor.skip, List.length_drop]
  omega

/-- A place in the pattern is gone to alike. -/
theorem moveTo_embed {stop : Nat} (hstop : stop ≤ cursor.endPosition) :
    (cursor.embed offset tail).moveTo (stop + offset) = (cursor.moveTo stop).embed offset tail := by
  have hdrop : stop + offset - (cursor.position + offset) = stop - cursor.position := by omega
  have hlength : stop - cursor.position ≤ cursor.rest.length := by
    rw [Cursor.endPosition] at hstop
    omega
  simp only [Cursor.embed, Cursor.moveTo, hdrop, List.drop_append_of_le_length hlength]

/-- Where the pattern ends, the parenthesis follows. -/
theorem head?_embed (htail : Closing tail) :
    (cursor.embed offset tail).rest.head? = cursor.rest.head?.or (some ')') := by
  rw [Cursor.embed, List.head?_append, htail.head?_eq]

/-! ### The characters that count -/

/-- Where counting starts does not matter but for the positions. -/
theorem countingFrom_add (inComment : Bool) (position offset : Nat) (text : Text) :
    countingFrom inComment (position + offset) text =
      (countingFrom inComment position text).map (moved offset) := by
  induction text generalizing inComment position with
  | nil => rfl
  | cons c text ih =>
      have hnext : position + offset + 1 = position + 1 + offset := by omega
      simp only [countingFrom, hnext, ih]
      split
      · rfl
      · split
        · rfl
        · split <;> rfl

/-- Behind a text counting goes on, perhaps in a comment. -/
theorem exists_countingFrom_append (inComment : Bool) (position : Nat) (text tail : Text) :
    ∃ later, countingFrom inComment position (text ++ tail) =
      countingFrom inComment position text ++ countingFrom later (position + text.length) tail := by
  induction text generalizing inComment position with
  | nil => exact ⟨inComment, rfl⟩
  | cons c text ih =>
      have hlength : position + (c :: text).length = position + 1 + text.length := by
        rw [List.length_cons]
        omega
      simp only [List.cons_append, countingFrom, hlength]
      split
      · exact ih _ _
      · split
        · exact ih _ _
        · split
          · exact ih _ _
          · obtain ⟨later, hlater⟩ := ih false (position + 1)
            exact ⟨later, by rw [hlater, List.cons_append]⟩

/-- What counts of a closing: all of it, or nothing in a comment. -/
theorem countingFrom_closing (htail : Closing tail) (inComment : Bool) (position : Nat) :
    countingFrom inComment position tail = [] ∨
      ∃ others, countingFrom inComment position tail = (')', position) :: others := by
  cases inComment with
  | true => cases htail <;> exact .inl rfl
  | false => cases htail <;> exact .inr ⟨_, rfl⟩

/-- What counts of what is behind the pattern: nothing, or its parenthesis and what follows. -/
def Follows (cursor : Cursor) (offset : Nat) (more : List (Char × Nat)) : Prop :=
  more = [] ∨ ∃ others, more = (')', cursor.endPosition + offset) :: others

/-- The characters that count in the longer pattern are those of the pattern and those behind it. -/
theorem exists_counting_embed (htail : Closing tail) (offset : Nat) (cursor : Cursor)
    (spaced : Bool) :
    ∃ more, (cursor.embed offset tail).counting spaced =
      (cursor.counting spaced).map (moved offset) ++ more ∧ Follows cursor offset more := by
  have hend : cursor.position + offset + cursor.rest.length = cursor.endPosition + offset := by
    rw [Cursor.endPosition]
    omega
  cases spaced with
  | true =>
      obtain ⟨later, hlater⟩ :=
        exists_countingFrom_append false (cursor.position + offset) cursor.rest tail
      -- The pattern may end in a comment, so `later` is not known.
      refine ⟨_, ?_, countingFrom_closing htail later _⟩
      rw [Cursor.counting, Cursor.counting, if_pos rfl, if_pos rfl, Cursor.embed, hlater,
        countingFrom_add, hend]
  | false =>
      refine ⟨tail.zipIdx (cursor.endPosition + offset), ?_, ?_⟩
      · have hmoved : cursor.rest.zipIdx (cursor.position + offset) =
            (cursor.rest.zipIdx cursor.position).map (moved offset) := by
          rw [Nat.add_comm, ← List.map_snd_add_zipIdx_eq_zipIdx]
          rfl
        rw [Cursor.counting, Cursor.counting, if_neg (by decide), if_neg (by decide), Cursor.embed,
          List.zipIdx_append, hmoved, hend]
      · cases htail <;> exact .inr ⟨_, rfl⟩

/-- A character that counts stands before the end. -/
theorem lt_of_mem_countingFrom {inComment : Bool} {position : Nat} {text : Text}
    {entry : Char × Nat} (hentry : entry ∈ countingFrom inComment position text) :
    entry.2 < position + text.length := by
  induction text generalizing inComment position with
  | nil => cases hentry
  | cons c text ih =>
      have hrest {inComment : Bool} (hlater : entry ∈ countingFrom inComment (position + 1) text) :
          entry.2 < position + (c :: text).length := by
        have hlt := ih hlater
        rw [List.length_cons]
        omega
      rw [countingFrom] at hentry
      split at hentry
      · exact hrest hentry
      · split at hentry
        · exact hrest hentry
        · split at hentry
          · exact hrest hentry
          · rcases List.mem_cons.mp hentry with rfl | hlater
            · rw [List.length_cons]
              omega
            · exact hrest hlater

/-- A character that counts stands before the end of the pattern. -/
theorem lt_endPosition_of_mem_counting {entry : Char × Nat}
    (hentry : entry ∈ cursor.counting spaced) : entry.2 < cursor.endPosition := by
  cases spaced with
  | true => exact lt_of_mem_countingFrom hentry
  | false =>
      obtain ⟨hlow, hhigh, -⟩ := List.mem_zipIdx hentry
      exact hhigh

/-! ### Blanks and comments -/

/-- Where something of the pattern counts, the next character that counts is the same one. -/
theorem settle_embed (htail : Closing tail) (hsome : (cursor.settle spaced).rest ≠ []) :
    (cursor.embed offset tail).settle spaced = (cursor.settle spaced).embed offset tail := by
  cases spaced with
  | false => rfl
  | true =>
      obtain ⟨more, hcounting, -⟩ := exists_counting_embed htail offset cursor true
      simp only [Cursor.settle, if_true] at hsome ⊢
      rw [hcounting]
      cases hstart : cursor.counting true with
      | nil =>
          rw [hstart] at hsome
          exact absurd (by simp [Cursor.moveTo, Cursor.endPosition]) hsome
      | cons entry others =>
          have hmember : entry ∈ cursor.counting true := hstart ▸ List.mem_cons_self
          exact moveTo_embed (lt_endPosition_of_mem_counting hmember).le

/-- Where nothing more of the pattern counts, the parenthesis is next, unless a comment hides it. -/
theorem settle_embed_of_nil (htail : Closing tail) (hnone : (cursor.settle spaced).rest = []) :
    ((cursor.embed offset tail).settle spaced).rest = tail ∨
      ((cursor.embed offset tail).settle spaced).rest = [] := by
  cases spaced with
  | false =>
      have hrest : cursor.rest = [] := hnone
      refine .inl ?_
      rw [Cursor.settle, if_neg (by decide), Cursor.embed, hrest, List.nil_append]
  | true =>
      obtain ⟨more, hcounting, hmore⟩ := exists_counting_embed htail offset cursor true
      simp only [Cursor.settle, if_true] at hnone ⊢
      rw [hcounting]
      cases hstart : cursor.counting true with
      | nil =>
          obtain rfl | ⟨others, rfl⟩ := hmore
          · exact .inr (by simp [Cursor.moveTo, Cursor.endPosition])
          · have hend : cursor.endPosition + offset - (cursor.position + offset) =
                cursor.rest.length := by
              rw [Cursor.endPosition]
              omega
            refine .inl ?_
            simp only [List.map_nil, List.nil_append, List.head?_cons, Cursor.moveTo, Cursor.embed,
              hend, List.drop_left]
      | cons entry others =>
          have hmember : entry ∈ cursor.counting true := hstart ▸ List.mem_cons_self
          have hlt := lt_endPosition_of_mem_counting hmember
          rw [Cursor.endPosition] at hlt
          rw [hstart] at hnone
          have hlength := congrArg List.length hnone
          simp only [List.head?_cons, Cursor.moveTo, List.length_drop, List.length_nil] at hlength
          have hrest : cursor.rest ≠ [] := by
            intro hrest
            simp [Cursor.counting, hrest, countingFrom] at hstart
          have hpos := List.length_pos_iff.mpr hrest
          omega

/-! ### Parts of what counts -/

/-- Where a stretch of characters ends inside the pattern, it ends there in the longer pattern. -/
theorem takeWhile_embed (p : Char → Bool) {chars behind : List (Char × Nat)} {next : Char × Nat}
    (offset : Nat) (more : List (Char × Nat))
    (hends : chars.drop (chars.takeWhile (p ·.1)).length = next :: behind) :
    (chars.map (moved offset) ++ more).takeWhile (p ·.1) =
        (chars.takeWhile (p ·.1)).map (moved offset) ∧
      (chars.map (moved offset) ++ more).drop (chars.takeWhile (p ·.1)).length =
        moved offset next :: (behind.map (moved offset) ++ more) := by
  have hlength : (chars.takeWhile (p ·.1)).length < chars.length := by
    have hsome := congrArg List.length hends
    rw [List.length_drop, List.length_cons] at hsome
    omega
  have hmoved : (chars.map (moved offset)).takeWhile (p ·.1) =
      (chars.takeWhile (p ·.1)).map (moved offset) := by
    rw [List.takeWhile_map]
    rfl
  refine ⟨?_, ?_⟩
  · rw [List.takeWhile_append, hmoved, if_neg]
    rw [List.length_map, List.length_map]
    exact hlength.ne
  · rw [List.drop_append_of_le_length (by rw [List.length_map]; exact hlength.le),
      ← List.map_drop, hends]
    rfl

/-- Hexadecimal digits are such wherever they stand. -/
theorem hexFault?_moved {digits : List (Char × Nat)} (hfault : hexFault? digits = none) :
    hexFault? (digits.map (moved offset)) = none := by
  unfold hexFault? at hfault ⊢
  rw [Option.map_eq_none_iff, List.find?_eq_none] at hfault ⊢
  rw [List.forall_mem_map]
  exact hfault

/-! ### Escapes -/

/-- The place behind a character of the pattern is gone to alike. -/
theorem moveTo_behind_embed {position : Nat} (hposition : position < cursor.endPosition) :
    (cursor.embed offset tail).moveTo (position + offset + 1) =
      (cursor.moveTo (position + 1)).embed offset tail := by
  rw [Nat.add_right_comm, moveTo_embed hposition]

/-- What stands between braces stands there in the longer pattern. -/
theorem Braced.embed {chars name : List (Char × Nat)} {closing : Char × Nat}
    (hbraced : Braced chars name closing) (offset : Nat) (more : List (Char × Nat)) :
    Braced (chars.map (moved offset) ++ more) (name.map (moved offset)) (moved offset closing) := by
  obtain @⟨opened, inside, after, _, rfl, hends⟩ := hbraced
  obtain ⟨hname, hdrop⟩ := takeWhile_embed (· != '}') offset more hends
  rw [← hname]
  exact .intro rfl (by rw [hname, List.length_map, hdrop])

/-- The digits of an escape are its digits in the longer pattern. -/
theorem HexDigits.embed {width : Nat} {chars digits : List (Char × Nat)}
    {last : Char × Nat} {byte : Bool} (hdigits : HexDigits width chars digits last byte)
    (offset : Nat) (more : List (Char × Nat)) :
    HexDigits width (chars.map (moved offset) ++ more) (digits.map (moved offset))
      (moved offset last) byte := by
  cases hdigits with
  | braced hbraced hsome =>
      exact .braced (hbraced.embed offset more) (by rwa [List.isEmpty_map])
  | counted hstart hbrace henough hlast =>
      have htake : (chars.map (moved offset) ++ more).take width =
          (chars.take width).map (moved offset) := by
        rw [List.take_append_of_le_length (by rwa [List.length_map]), List.map_take]
      rw [← htake]
      refine .counted (congrArg (·.map (moved offset) ++ more) hstart) hbrace ?_ ?_
      · rw [List.length_append, List.length_map]
        exact Nat.le_add_right_of_le henough
      · rw [htake, List.getLast?_map, hlast, Option.map_some]

/-- Hexadecimal digits. -/
theorem scanHex_embed (htail : Closing tail) {width : Nat} (hwidth : 0 < width) {sign : Sign}
    (hscan : scanHex spaced width cursor = .ok (sign, behind)) :
    scanHex spaced width (cursor.embed offset tail) = .ok (sign, behind.embed offset tail) := by
  obtain ⟨digits, last, byte, c, hdigits, hfault, hchar, rfl, rfl⟩ :=
    (scanHex_eq_ok_iff hwidth).mp hscan
  obtain ⟨more, hcounting, -⟩ := exists_counting_embed htail offset cursor spaced
  have hlast := lt_endPosition_of_mem_counting hdigits.mem
  refine (scanHex_eq_ok_iff hwidth).mpr ⟨digits.map (moved offset), moved offset last, byte, c, ?_,
    hexFault?_moved hfault, by rwa [map_fst_moved], rfl, (moveTo_behind_embed hlast).symm⟩
  rw [hcounting]
  exact hdigits.embed offset more

/-- The name of a property is its name in the longer pattern. -/
theorem Named.embed {chars : List (Char × Nat)} {named : PropertyName × Bool} {last : Char × Nat}
    (hnamed : Named chars named last) (offset : Nat) (more : List (Char × Nat)) :
    Named (chars.map (moved offset) ++ more) named (moved offset last) := by
  cases hnamed with
  | braced hbraced =>
      rw [← map_fst_moved offset]
      exact .braced (hbraced.embed offset more)
  | letter hstart hbrace hslash =>
      exact .letter (congrArg (·.map (moved offset) ++ more) hstart) hbrace hslash

/-- The name of a property. -/
theorem scanProperty_embed (htail : Closing tail) {negated : Bool} {sign : Sign}
    (hscan : scanProperty spaced negated cursor = .ok (sign, behind)) :
    scanProperty spaced negated (cursor.embed offset tail) =
      .ok (sign, behind.embed offset tail) := by
  obtain ⟨named, last, hnamed, rfl, rfl⟩ := scanProperty_eq_ok_iff.mp hscan
  obtain ⟨more, hcounting, -⟩ := exists_counting_embed htail offset cursor spaced
  have hlast := lt_endPosition_of_mem_counting hnamed.mem
  refine scanProperty_eq_ok_iff.mpr
    ⟨named, moved offset last, ?_, rfl, (moveTo_behind_embed hlast).symm⟩
  rw [hcounting]
  exact hnamed.embed offset more

/-- A word boundary is the same one in the longer pattern. -/
theorem Boundary.embed (htail : Closing tail) {place : PlaceSign}
    (hboundary : Boundary spaced cursor place behind) :
    Boundary spaced (cursor.embed offset tail) place (behind.embed offset tail) := by
  have hbegun (hbrace : cursor.rest.head? = some '{') :
      (cursor.embed offset tail).rest.head? = some '{' ∧
        (cursor.embed offset tail).skip 1 = (cursor.skip 1).embed offset tail ∧
        (cursor.skip 1).endPosition = cursor.endPosition := by
    obtain ⟨rest, hrest⟩ := List.head?_eq_some_iff.mp hbrace
    have hone := one_le_length hrest
    exact ⟨by rw [head?_embed htail, hbrace, Option.some_or], skip_embed hone, endPosition_skip hone⟩
  obtain ⟨more, hcounting, -⟩ := exists_counting_embed htail offset (cursor.skip 1) spaced
  cases hboundary with
  | bare hbrace =>
      refine .bare ?_
      rw [head?_embed htail]
      cases hhead : cursor.rest.head? with
      | none => decide
      | some c => rwa [hhead] at hbrace
  | repetition hbrace hstart hletter =>
      obtain ⟨hopens, hskip, -⟩ := hbegun hbrace
      refine .repetition hopens (Eq.trans ?_ (congrArg (Option.map (moved offset)) hstart)) hletter
      rw [hskip, hcounting, List.head?_append, List.head?_map, hstart, Option.map_some,
        Option.some_or]
  | named hbrace hname hends hentry =>
      rename_i closed entry
      obtain ⟨hopens, hskip, hend⟩ := hbegun hbrace
      subst hname
      obtain ⟨hname, hdrop⟩ := takeWhile_embed isBoundaryLetter offset more hends
      rw [← hcounting, ← hskip] at hname hdrop
      rw [← map_fst_moved offset, ← hname] at hentry
      have hclosed := lt_endPosition_of_mem_counting
        (List.mem_of_mem_drop (hends ▸ List.mem_cons_self))
      rw [hend] at hclosed
      rw [← moveTo_behind_embed hclosed]
      exact .named hopens rfl (by rw [hname, List.length_map, hdrop]; rfl) hentry

/-- The name of a kind of word boundary. -/
theorem scanBoundary_embed (htail : Closing tail) {start : Nat} {sign : Sign}
    (hscan : scanBoundary spaced start cursor = .ok (sign, behind)) :
    scanBoundary spaced (start + offset) (cursor.embed offset tail) =
      .ok (sign, behind.embed offset tail) := by
  obtain ⟨place, hboundary, rfl⟩ := scanBoundary_eq_ok_iff.mp hscan
  exact scanBoundary_eq_ok_iff.mpr ⟨place, hboundary.embed htail, rfl⟩

/-- Escapes. -/
theorem scanEscape_embed (htail : Closing tail) {sign : Sign}
    (hscan : scanEscape spaced cursor = .ok (sign, behind)) :
    scanEscape spaced (cursor.embed offset tail) = .ok (sign, behind.embed offset tail) := by
  obtain ⟨text, position⟩ := cursor
  rcases text with - | ⟨slash, - | ⟨c, rest⟩⟩
  · cases hscan
  · cases hscan
  · have hbehind : (Cursor.embed offset tail ⟨slash :: c :: rest, position⟩).skip 2 =
        (Cursor.skip ⟨slash :: c :: rest, position⟩ 2).embed offset tail := skip_embed (by simp)
    unfold scanEscape at hscan ⊢
    rw [hbehind]
    simp only [Cursor.embed, List.cons_append, List.drop_succ_cons, List.drop_zero] at hscan ⊢
    split at hscan
    · cases hscan
    · rename_i hdigit
      rw [if_neg hdigit]
      split at hscan
      · rename_i hescapable
        cases hscan
        rw [if_pos hescapable]
      · rename_i hescapable
        rw [if_neg hescapable]
        split at hscan
        · exact scanHex_embed htail (by decide) hscan
        · exact scanHex_embed htail (by decide) hscan
        · exact scanHex_embed htail (by decide) hscan
        · exact scanProperty_embed htail hscan
        · exact scanProperty_embed htail hscan
        all_goals first
          | exact scanBoundary_embed htail hscan
          | cases hscan; done
          | cases hscan
            rfl

/-- The sign of one character or an escape. -/
theorem scanSign_embed (htail : Closing tail) {c : Char} {rest : Text} {sign : Sign}
    (hstart : cursor.rest = c :: rest) (hscan : scanSign spaced c cursor = .ok (sign, behind)) :
    scanSign spaced c (cursor.embed offset tail) = .ok (sign, behind.embed offset tail) := by
  have hskip : (cursor.embed offset tail).skip 1 = (cursor.skip 1).embed offset tail :=
    skip_embed (one_le_length hstart)
  unfold scanSign at hscan ⊢
  rw [hskip]
  split at hscan
  · exact scanEscape_embed htail hscan
  all_goals
    cases hscan
    rfl

end Orthography.Pattern
