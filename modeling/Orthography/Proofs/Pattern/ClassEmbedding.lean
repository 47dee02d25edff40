import Mathlib.Data.Sum.Basic
import Orthography.Proofs.Pattern.FixedWidth
import Orthography.Proofs.Pattern.OpeningEmbedding

/-!
# Classes inside a longer pattern

A class in brackets that a pattern closes is closed by the same bracket in a longer pattern: every
part of it is read alike, and the parenthesis behind the pattern is not looked at.  What the class
means is left aside here, only where it ends is followed.
-/

namespace Orthography.Pattern

open Character (isBlank)

variable {offset : Nat} {tail : Text} {cursor behind : Cursor} {spaced : Bool}

/-! ### The start of a bracket -/

/-- Minus signs at the start of a bracket, with something of the pattern behind them. -/
theorem scanHyphens_embed {chars others : List (Char × Nat)} {next : Char × Nat}
    {items read : List SizedClass} (offset : Nat) (more : List (Char × Nat))
    (hscan : scanHyphens chars items = (read, next :: others)) (longer : List SizedClass)
    (hlength : longer.length = items.length) :
    ∃ all, scanHyphens (chars.map (moved offset) ++ more) longer =
        (all, moved offset next :: (others.map (moved offset) ++ more)) ∧
      all.length = read.length := by
  fun_induction scanHyphens chars items generalizing longer with
  | case1 position rest items ih =>
      exact ih hscan _ (by rw [List.length_cons, List.length_cons, hlength])
  | case2 chars items hhyphen =>
      cases hscan
      obtain ⟨c, position⟩ := next
      refine ⟨longer, ?_, hlength⟩
      rw [List.map_cons, List.cons_append, moved]
      unfold scanHyphens
      split
      · rename_i hsame
        cases hsame
        exact absurd rfl (hhyphen _ _)
      · rfl

/-- What follows the minus signs at the start of a bracket is an end of what was there. -/
theorem scanHyphens_suffix (chars : List (Char × Nat)) (items : List SizedClass) :
    (scanHyphens chars items).2 <:+ chars := by
  fun_induction scanHyphens chars items with
  | case1 position rest items ih => exact ih.trans (List.suffix_cons _ _)
  | case2 chars items hhyphen => exact List.suffix_rfl

/-- What is behind the caret of a bracket is an end of what is inside it. -/
theorem behindCaret_suffix (inside : List (Char × Nat)) : behindCaret inside <:+ inside := by
  unfold behindCaret
  split
  · exact List.drop_suffix _ _
  · exact List.suffix_rfl

/-- A caret at the start of a bracket is one in the longer pattern, if something of the pattern is
behind it. -/
theorem behindCaret_embed {inside : List (Char × Nat)} (offset : Nat) (more : List (Char × Nat))
    (hsome : behindCaret inside ≠ []) :
    behindCaret (inside.map (moved offset) ++ more) =
      (behindCaret inside).map (moved offset) ++ more := by
  rcases inside with - | ⟨⟨c, position⟩, others⟩
  · exact absurd rfl hsome
  · by_cases hcaret : c = '^' <;> simp [behindCaret, moved, hcaret]

/-- Behind the start of a bracket stands a character of it. -/
theorem BracketStart.exists_mem {body : List (Char × Nat)} {items : List SizedClass} {next : Nat}
    (hbracket : BracketStart body items next) : ∃ c, (c, next) ∈ body := by
  have hsuffix := scanHyphens_suffix body []
  cases hbracket with
  | closing hhyphens =>
      rw [hhyphens] at hsuffix
      exact ⟨_, hsuffix.subset (List.mem_cons_of_mem _ List.mem_cons_self)⟩
  | hyphens hhyphens =>
      rw [hhyphens] at hsuffix
      exact ⟨_, hsuffix.subset List.mem_cons_self⟩

/-- The start of a bracket is as long in the longer pattern. -/
theorem BracketStart.embed {body : List (Char × Nat)} {items : List SizedClass} {next : Nat}
    (hbracket : BracketStart body items next) (offset : Nat) (more : List (Char × Nat)) :
    ∃ items, BracketStart (body.map (moved offset) ++ more) items (next + offset) := by
  cases hbracket with
  | closing hhyphens =>
      obtain ⟨all, hall, hlength⟩ := scanHyphens_embed offset more hhyphens [] rfl
      obtain rfl : all = [] := List.length_eq_zero_iff.mp hlength
      exact ⟨_, .closing hall⟩
  | hyphens hhyphens hplain =>
      obtain ⟨all, hall, hlength⟩ := scanHyphens_embed offset more hhyphens [] rfl
      refine ⟨all, .hyphens hall ?_⟩
      rintro rfl
      exact hplain (List.length_eq_zero_iff.mp hlength.symm)

/-- The start of a bracket. -/
theorem openClass_embed (htail : Closing tail) {outer level : ClassLevel} {frame : ClassFrame}
    {c : Char} {rest : Text} (hstart : cursor.rest = c :: rest)
    (hopen : openClass spaced outer cursor = .ok (behind, level, frame)) (longer : ClassLevel) :
    ∃ level frame, openClass spaced longer (cursor.embed offset tail) =
      .ok (behind.embed offset tail, level, frame) := by
  obtain ⟨items, next, hbracket, rfl, rfl, rfl⟩ := openClass_eq_ok_iff.mp hopen
  have hone := one_le_length hstart
  obtain ⟨more, hcounting, -⟩ := exists_counting_embed htail offset (cursor.skip 1) spaced
  obtain ⟨d, hmember⟩ := hbracket.exists_mem
  have hnext := lt_endPosition_of_mem_counting ((behindCaret_suffix _).subset hmember)
  rw [endPosition_skip hone] at hnext
  obtain ⟨all, hall⟩ := hbracket.embed offset more
  rw [← behindCaret_embed offset more (List.ne_nil_of_mem hmember), ← hcounting,
    ← skip_embed hone] at hall
  exact ⟨_, _, openClass_eq_ok_iff.mpr ⟨all, next + offset, hall, (moveTo_embed hnext.le).symm, rfl,
    rfl⟩⟩

/-! ### The parts of a bracket -/

/-- The class between colons, if there is one. -/
theorem scanNamed?_embed (htail : Closing tail) :
    (scanNamed? (cursor.embed offset tail)).map (·.2) =
      (scanNamed? cursor).map (·.2.embed offset tail) := by
  -- The parenthesis behind the pattern is no part of a named class.
  have hstarts {negated : Bool} {name : Text} {sort : NamedClass}
      (hname : NamedClass.ofName? name = some sort) :
      namedText negated name <+: (cursor.embed offset tail).rest ↔
        namedText negated name <+: cursor.rest := by
    rw [← List.isPrefixOf_iff_prefix, ← List.isPrefixOf_iff_prefix, Cursor.embed,
      isPrefixOf_embed htail (not_mem_namedText hname negated rfl (by decide))]
  cases hscan : scanNamed? cursor with
  | some result =>
      obtain ⟨item, behind⟩ := result
      obtain ⟨negated, name, sort, hname, hprefix, rfl, -⟩ := scanNamed?_eq_some_iff.mp hscan
      rw [scanNamed?_eq_some_iff.mpr
        ⟨negated, name, sort, hname, (hstarts hname).mpr hprefix, rfl, rfl⟩]
      exact congrArg some (skip_embed hprefix.length_le)
  | none =>
      rw [Option.map_none, Option.map_eq_none_iff, Option.eq_none_iff_forall_ne_some]
      rintro ⟨item, behind⟩ hlonger
      obtain ⟨negated, name, sort, hname, hprefix, -, -⟩ := scanNamed?_eq_some_iff.mp hlonger
      rw [scanNamed?_eq_some_iff.mpr
        ⟨negated, name, sort, hname, (hstarts hname).mp hprefix, rfl, rfl⟩] at hscan
      cases hscan

/-- A sign inside a bracket. -/
theorem scanClassSign_embed (htail : Closing tail) {c : Char} {rest : Text} {sign : Sign}
    (hstart : cursor.rest = c :: rest)
    (hscan : scanClassSign spaced c cursor = .ok (sign, behind)) :
    scanClassSign spaced c (cursor.embed offset tail) = .ok (sign, behind.embed offset tail) := by
  unfold scanClassSign at hscan ⊢
  split at hscan
  · rename_i hslash
    rw [if_pos hslash]
    exact scanEscape_embed htail hscan
  · rename_i hslash
    cases hscan
    rw [if_neg hslash, skip_embed (one_le_length hstart)]

/-- Which signs are classes of their own does not depend on their place. -/
theorem exists_classItemOf {sign : Sign} {span : Span} {item : ClassItem}
    (hitem : classItemOf sign span = .ok item) (other : Span) :
    ∃ moved, classItemOf sign other = .ok moved := by
  cases sign with
  | literal c byte => exact ⟨_, rfl⟩
  | letterClass sort negated => exact ⟨_, rfl⟩
  | property name negated => exact ⟨_, rfl⟩
  | dot => cases hitem
  | place sign => cases hitem

/-- The first character of a text that is no blank, or the parenthesis behind it. -/
theorem head?_dropWhile_isBlank (htail : Closing tail) (text : Text) :
    ((text ++ tail).dropWhile isBlank).head? =
      (text.dropWhile isBlank).head?.or (some ')') := by
  have hhead : (tail.dropWhile isBlank).head? = some ')' := by
    cases htail <;> rfl
  rw [List.dropWhile_append]
  split
  · rename_i hnone
    rw [List.isEmpty_iff.mp hnone, hhead, List.head?_nil, Option.none_or]
  · rename_i hsome
    rw [List.head?_append]
    cases hfirst : (text.dropWhile isBlank) with
    | nil => simp [hfirst] at hsome
    | cons c rest => rfl

/-- The character that decides whether a minus sign makes a range, or the parenthesis. -/
theorem peekBehind_embed (htail : Closing tail) {c : Char} {rest : Text}
    (hstart : cursor.rest = c :: rest) :
    peekBehind spaced (cursor.embed offset tail) = (peekBehind spaced cursor).or (some ')') := by
  have hlonger : ((cursor.embed offset tail).skip 1).rest = rest ++ tail :=
    rest_skip_one (by rw [Cursor.embed, hstart, List.cons_append])
  unfold peekBehind
  dsimp only
  rw [hlonger, rest_skip_one hstart]
  cases spaced with
  | false =>
      have hhead : (rest ++ tail).head? = rest.head?.or tail.head? := List.head?_append
      rwa [htail.head?_eq] at hhead
  | true =>
      simp only [if_true]
      cases hfirst : rest.dropWhile isBlank with
      | nil =>
          rw [List.dropWhile_append, hfirst]
          cases htail <;> rfl
      | cons d more =>
          rw [List.dropWhile_append, hfirst, if_neg (by simp), List.cons_append]
          by_cases hcomment : d = '#'
          · subst hcomment
            exact head?_dropWhile_isBlank htail more
          · split
            · rename_i heq
              cases heq
              exact absurd rfl hcomment
            · split
              · rename_i heq
                cases heq
                exact absurd rfl hcomment
              · rfl

/-- The parenthesis behind the pattern keeps no minus sign from making a range. -/
theorem peekBehind_embed_mem_iff (htail : Closing tail) {c : Char} {rest : Text}
    (hstart : cursor.rest = c :: rest) :
    peekBehind spaced (cursor.embed offset tail) ∈ [some ']', some '-'] ↔
      peekBehind spaced cursor ∈ [some ']', some '-'] := by
  rw [peekBehind_embed htail hstart]
  cases peekBehind spaced cursor with
  | none => decide
  | some after => rw [Option.some_or]

/-- A character, escape or range inside a bracket. -/
theorem scanRange_embed (htail : Closing tail) {unclosed : Fault} {c : Char} {rest : Text}
    {item : SizedClass} (hstart : cursor.rest = c :: rest)
    (hscan : scanRange spaced unclosed c cursor = .ok (item, behind)) (other : Fault) :
    ∃ moved, scanRange spaced other c (cursor.embed offset tail) =
      .ok (moved, behind.embed offset tail) := by
  have hsame {cursor : Cursor} {d : Char} {others : Text} (hrest : cursor.rest = d :: others) :
      (cursor.embed offset tail).rest = d :: (others ++ tail) := by
    rw [Cursor.embed, hrest, List.cons_append]
  cases scanRange_eq_ok_iff.mp hscan with
  | single hlow hsome hsingle hitem =>
      rename_i low next first
      obtain ⟨d, others, hnext⟩ := List.exists_cons_of_ne_nil hsome
      obtain ⟨moved, hmoved⟩ := exists_classItemOf hitem
        ⟨(cursor.embed offset tail).position, (next.embed offset tail).position⟩
      refine ⟨⟨moved, 0⟩, scanRange_eq_ok_iff.mpr ?_⟩
      rw [← settle_embed htail hsome]
      refine .single (scanClassSign_embed htail hstart hlow) ?_ ?_ hmoved
      · rw [settle_embed htail hsome, hsame hnext]
        exact List.cons_ne_nil _ _
      · rw [settle_embed htail hsome, peekBehind_embed_mem_iff htail hnext, hsame hnext]
        rwa [hnext] at hsingle
  | range hlow hhyphen hpeek hupper hrest hhigh horder =>
      rename_i next upper
      obtain ⟨others, hnext⟩ := List.head?_eq_some_iff.mp hhyphen
      subst hupper
      have hsome : (next.settle spaced).rest ≠ [] := by
        rw [hnext]
        exact List.cons_ne_nil _ _
      have hupper : (((next.embed offset tail).settle spaced).skip 1).settle spaced =
          (((next.settle spaced).skip 1).settle spaced).embed offset tail := by
        rw [settle_embed htail hsome, skip_embed (one_le_length hnext), settle_embed htail]
        rw [hrest]
        exact List.cons_ne_nil _ _
      refine ⟨_, scanRange_eq_ok_iff.mpr (.range (scanClassSign_embed htail hstart hlow) ?_ ?_ hupper
        (hsame hrest) (scanClassSign_embed htail hrest hhigh) horder)⟩
      · rw [settle_embed htail hsome, hsame hnext, List.head?_cons]
      · rwa [settle_embed htail hsome, peekBehind_embed_mem_iff htail hnext]

/-! ### Whole classes -/

/-- A reader of a class in the longer pattern stands at the same place as the one of the pattern
alone, with as many brackets open. -/
structure ClassReader.Beside (offset : Nat) (tail : Text) (alone inside : ClassReader) : Prop where
  cursor : inside.cursor = alone.cursor.embed offset tail
  frames : inside.frames.length = alone.frames.length

namespace ClassReader

variable {alone inside next : ClassReader}

/-- A part that leaves the reader of the pattern alone inside the class, or ends the class for it,
does the same in the longer pattern. -/
theorem Beside.step (htail : Closing tail) (hbeside : alone.Beside offset tail inside)
    {result : (SizedClass × Cursor) ⊕ ClassReader} (hstep : alone.step spaced = .ok result) :
    ∃ other, inside.step spaced = .ok other ∧
      Sum.LiftRel (fun a b => b.2 = a.2.embed offset tail) (Beside offset tail) result other := by
  rw [ClassReader.step_eq_ok_iff] at hstep
  have hsome : (alone.cursor.settle spaced).rest ≠ [] := by
    cases hstep <;> simp [*]
  simp only [ClassReader.step_eq_ok_iff, hbeside.cursor, settle_embed htail hsome]
  generalize alone.cursor.settle spaced = settled at hstep
  have hlonger {c : Char} {rest : Text} (hrest : settled.rest = c :: rest) :
      (settled.embed offset tail).rest = c :: (rest ++ tail) := by
    rw [Cursor.embed, hrest, List.cons_append]
  have hnamed : (scanNamed? (settled.embed offset tail)).map (·.2) =
      (scanNamed? settled).map (·.2.embed offset tail) := scanNamed?_embed htail
  have hlength := hbeside.frames
  cases hstep with
  | named hrest hfound =>
      rw [hfound] at hnamed
      obtain ⟨⟨other, place⟩, hother, hplace⟩ := Option.map_eq_some_iff.mp hnamed
      exact ⟨_, .named (hlonger hrest) hother, .inr ⟨hplace, hlength⟩⟩
  | opens hrest hfound hopen =>
      rw [hfound, Option.map_none, Option.map_eq_none_iff] at hnamed
      obtain ⟨other, bracket, hother⟩ := openClass_embed htail hrest hopen inside.level
      exact ⟨_, .opens (hlonger hrest) hnamed hother, .inr ⟨rfl, by simp [hlength]⟩⟩
  | ends hrest hframes =>
      rw [hframes] at hlength
      refine ⟨_, .ends (hlonger hrest) (List.length_eq_zero_iff.mp hlength), .inl ?_⟩
      exact skip_embed (one_le_length hrest)
  | closes hrest hframes =>
      rw [hframes] at hlength
      obtain ⟨other, others, hothers⟩ := List.exists_cons_of_length_eq_add_one hlength
      rw [hothers] at hlength
      refine ⟨_, .closes (hlonger hrest) hothers, .inr ⟨?_, Nat.succ.inj hlength⟩⟩
      exact skip_embed (one_le_length hrest)
  | operator operation hrest =>
      refine ⟨_, .operator operation (hlonger hrest), .inr ⟨?_, hlength⟩⟩
      exact skip_embed (by simp [hrest])
  | @range c rest item behind hrest hopens hcloses hoperator hrange =>
      obtain ⟨moved, hmoved⟩ := scanRange_embed htail hrest hrange
        ⟨.classUnclosed, inside.frame.opened, none⟩
      -- An operator might be completed by what follows the pattern, but that starts with a
      -- parenthesis.
      have hlongerOperator (operation : SetOperation) (hc : c = operation.sign) :
          (rest ++ tail).head? ≠ some c := by
        rcases rest with - | ⟨d, others⟩
        · rw [List.nil_append, htail.head?_eq, hc]
          cases operation <;> decide
        · exact hoperator operation hc
      exact ⟨_, .range (hlonger hrest) hopens hcloses hlongerOperator hmoved, .inr ⟨rfl, hlength⟩⟩

/-- A class that the pattern alone closes ends at the same place in the longer pattern. -/
theorem Beside.finish (htail : Closing tail) (parts : Nat)
    (hbeside : alone.Beside offset tail inside) {longer : Nat} (hparts : parts ≤ longer)
    {content : SizedClass} {behind : Cursor}
    (hfinish : ClassReader.finish spaced parts alone = .ok (content, behind)) :
    ∃ other, ClassReader.finish spaced longer inside = .ok (other, behind.embed offset tail) := by
  induction parts generalizing alone inside longer with
  | zero => cases hfinish
  | succ parts ih =>
      obtain ⟨more, rfl⟩ : ∃ more, longer = more + 1 := ⟨longer - 1, by omega⟩
      unfold ClassReader.finish at hfinish ⊢
      split at hfinish
      · cases hfinish
      · rename_i result hstep
        cases hfinish
        obtain ⟨other, hother, hresult⟩ := hbeside.step htail hstep
        obtain ⟨other, place⟩ | next := other
        · rw [Sum.liftRel_inl_inl] at hresult
          dsimp only at hresult
          rw [hother, hresult]
          exact ⟨_, rfl⟩
        · exact absurd hresult Sum.not_liftRel_inl_inr
      · rename_i next hstep
        obtain ⟨other, hother, hresult⟩ := hbeside.step htail hstep
        obtain other | later := other
        · exact absurd hresult Sum.not_liftRel_inr_inl
        · rw [hother]
          exact ih (Sum.liftRel_inr_inr.mp hresult) (by omega) hfinish

end ClassReader

/-- Classes in brackets. -/
theorem scanClass_embed (htail : Closing tail) {content : SizedClass} {c : Char} {rest : Text}
    (hstart : cursor.rest = c :: rest) (hscan : scanClass spaced cursor = .ok (content, behind)) :
    ∃ other, scanClass spaced (cursor.embed offset tail) =
      .ok (other, behind.embed offset tail) := by
  obtain ⟨⟨inside, level, frame⟩, hopen, hfinish⟩ := eq_ok_of_bind hscan
  obtain ⟨longer, bracket, hlonger⟩ : ∃ level frame,
      openClass spaced ⟨[], none⟩ (cursor.embed offset tail) =
        .ok (inside.embed offset tail, level, frame) :=
    openClass_embed htail hstart hopen _
  have hbeside : ClassReader.Beside offset tail ⟨inside, level, frame, []⟩
      ⟨inside.embed offset tail, longer, bracket, []⟩ := ⟨rfl, rfl⟩
  have hparts : inside.rest.length + 1 ≤ (inside.embed offset tail).rest.length + 1 := by
    rw [Cursor.embed, List.length_append]
    omega
  obtain ⟨other, hother⟩ := hbeside.finish htail _ hparts hfinish
  refine ⟨other, ?_⟩
  unfold scanClass
  rw [hlonger]
  exact hother

end Orthography.Pattern
