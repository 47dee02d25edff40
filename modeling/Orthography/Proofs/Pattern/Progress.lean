import Orthography.Proofs.Pattern.ClassEmbedding
import Orthography.Proofs.Pattern.Reading

/-!
# Every part takes up characters

Whatever a scanner reads, it leaves an end of the text that it was given, and the reader leaves less
after every part.  So the parts that are allowed for a pattern, one more than it has characters, are
enough to read it to its end.
-/

namespace Orthography.Pattern

variable {cursor behind : Cursor} {spaced : Bool}

/-! ### Signs -/

/-- Passing over characters leaves an end of the text. -/
theorem skip_suffix (cursor : Cursor) (n : Nat) : (cursor.skip n).rest <:+ cursor.rest :=
  List.drop_suffix _ _

/-- Going on to a position leaves an end of the text. -/
theorem moveTo_suffix (cursor : Cursor) (position : Nat) :
    (cursor.moveTo position).rest <:+ cursor.rest :=
  List.drop_suffix _ _

/-- Going on to what counts leaves an end of the text. -/
theorem settle_suffix (cursor : Cursor) (spaced : Bool) :
    (cursor.settle spaced).rest <:+ cursor.rest := by
  unfold Cursor.settle
  split
  · split <;> exact moveTo_suffix _ _
  · exact List.suffix_rfl

/-- Hexadecimal digits leave an end of the text. -/
theorem scanHex_suffix {width : Nat} (hwidth : 0 < width) {sign : Sign}
    (hscan : scanHex spaced width cursor = .ok (sign, behind)) : behind.rest <:+ cursor.rest := by
  obtain ⟨digits, last, byte, c, -, -, -, -, rfl⟩ := (scanHex_eq_ok_iff hwidth).mp hscan
  exact moveTo_suffix _ _

/-- The name of a property leaves an end of the text. -/
theorem scanProperty_suffix {negated : Bool} {sign : Sign}
    (hscan : scanProperty spaced negated cursor = .ok (sign, behind)) :
    behind.rest <:+ cursor.rest := by
  obtain ⟨named, last, -, -, rfl⟩ := scanProperty_eq_ok_iff.mp hscan
  exact moveTo_suffix _ _

/-- The name of a kind of word boundary leaves an end of the text. -/
theorem scanBoundary_suffix {start : Nat} {sign : Sign}
    (hscan : scanBoundary spaced start cursor = .ok (sign, behind)) :
    behind.rest <:+ cursor.rest := by
  obtain ⟨place, hboundary, -⟩ := scanBoundary_eq_ok_iff.mp hscan
  cases hboundary with
  | bare => exact List.suffix_rfl
  | repetition => exact List.suffix_rfl
  | named => exact moveTo_suffix _ _

/-- An escape leaves an end of what is behind its backslash. -/
theorem scanEscape_suffix {sign : Sign} (hscan : scanEscape spaced cursor = .ok (sign, behind)) :
    behind.rest <:+ (cursor.skip 1).rest := by
  have hskip : (cursor.skip 2).rest <:+ (cursor.skip 1).rest :=
    List.drop_suffix_drop_left _ (by decide)
  unfold scanEscape at hscan
  dsimp only at hscan
  split at hscan
  · cases hscan
  · split at hscan
    · cases hscan
    · split at hscan
      · cases hscan
        exact hskip
      · split at hscan
        all_goals first
          | exact (scanHex_suffix (by decide) hscan).trans hskip
          | exact (scanProperty_suffix hscan).trans hskip
          | exact (scanBoundary_suffix hscan).trans hskip
          | cases hscan; done
          | cases hscan
            exact hskip

/-- A sign leaves an end of what is behind its first character. -/
theorem scanSign_suffix {c : Char} {sign : Sign}
    (hscan : scanSign spaced c cursor = .ok (sign, behind)) :
    behind.rest <:+ (cursor.skip 1).rest := by
  unfold scanSign at hscan
  split at hscan
  · exact scanEscape_suffix hscan
  all_goals
    cases hscan
    exact List.suffix_rfl

/-! ### Repetitions and openings -/

/-- Flags leave an end of the text. -/
theorem scanFlags_suffix {position : Nat} {read list : FlagList} {afterMinus : Bool} {text : Text}
    {final : Char} (hscan : scanFlags position read afterMinus text = .ok (list, final, behind)) :
    behind.rest <:+ text := by
  induction text generalizing position read afterMinus with
  | nil => cases hscan
  | cons c text ih =>
      unfold scanFlags at hscan
      split at hscan
      · split at hscan
        · cases hscan
        · cases hscan
          exact List.suffix_cons _ _
      · split at hscan
        · split at hscan
          · cases hscan
          · exact (ih hscan).trans (List.suffix_cons _ _)
        · split at hscan
          · cases hscan
          · split at hscan
            · cases hscan
            · exact (ih hscan).trans (List.suffix_cons _ _)

/-- The name of a group leaves an end of the text. -/
theorem scanName_suffix {name : Text} {span : Span}
    (hscan : scanName cursor = .ok (name, span, behind)) : behind.rest <:+ cursor.rest := by
  unfold scanName at hscan
  dsimp only at hscan
  split at hscan
  · cases hscan
  · split at hscan
    · cases hscan
    · split at hscan
      · cases hscan
      · cases hscan
        exact skip_suffix _ _

/-- The opening of a group leaves an end of what is behind its parenthesis. -/
theorem scanOpening_suffix {opening : Opening}
    (hscan : scanOpening spaced cursor = .ok (opening, behind)) :
    behind.rest <:+ (cursor.skip 1).rest := by
  have hinside := settle_suffix (cursor.skip 1) spaced
  cases (scanOpening_eq_ok_iff.mp hscan).2 with
  | named hsign hname => exact (scanName_suffix hname).trans ((skip_suffix _ _).trans hinside)
  | group hsign hquestion hflags | flags hsign hquestion hflags =>
      rw [hquestion] at hinside
      exact (scanFlags_suffix hflags).trans ((List.suffix_cons _ _).trans hinside)
  | plain => exact hinside

/-- Behind a position that comes later an end of what is behind the first character is left. -/
theorem moveTo_suffix_of_lt {position : Nat} (hlt : cursor.position < position) :
    (cursor.moveTo position).rest <:+ (cursor.skip 1).rest :=
  List.drop_suffix_drop_left _ (by omega)

/-- A character that counts does not stand before the cursor. -/
theorem position_le_of_mem_countingFrom {inComment : Bool} {position : Nat} {text : Text}
    {entry : Char × Nat} (hentry : entry ∈ countingFrom inComment position text) :
    position ≤ entry.2 := by
  induction text generalizing inComment position with
  | nil => cases hentry
  | cons c text ih =>
      rw [countingFrom] at hentry
      split at hentry
      · exact (Nat.le_succ _).trans (ih hentry)
      · split at hentry
        · exact (Nat.le_succ _).trans (ih hentry)
        · split at hentry
          · exact (Nat.le_succ _).trans (ih hentry)
          · rcases List.mem_cons.mp hentry with rfl | hlater
            · exact le_rfl
            · exact (Nat.le_succ _).trans (ih hlater)

/-- A character that counts behind the first one stands at a later position. -/
theorem lt_of_mem_counting_skip {entry : Char × Nat}
    (hentry : entry ∈ (cursor.skip 1).counting spaced) : cursor.position < entry.2 := by
  cases spaced with
  | true => exact position_le_of_mem_countingFrom hentry
  | false =>
      obtain ⟨hlow, -, -⟩ := List.mem_zipIdx hentry
      exact hlow

/-- A counted repetition leaves an end of what is behind its opening brace. -/
theorem scanCounted_suffix {repetition : Repetition}
    (hscan : scanCounted spaced cursor = .ok (repetition, behind)) :
    behind.rest <:+ (cursor.skip 1).rest := by
  obtain ⟨least, most, greedy⟩ := repetition
  obtain ⟨closed, after, hcounts, -, -, rfl⟩ := scanCounted_eq_ok_iff.mp hscan
  obtain ⟨entry, hentry, hstop⟩ := exists_mem_scanReluctance closed after
  have hlt := lt_of_mem_counting_skip (hcounts.suffix.subset hentry)
  exact moveTo_suffix_of_lt (by omega)

/-! ### Classes -/

/-- The start of a bracket leaves an end of what is behind the bracket. -/
theorem openClass_suffix {outer level : ClassLevel} {frame : ClassFrame}
    (hopen : openClass spaced outer cursor = .ok (behind, level, frame)) :
    behind.rest <:+ (cursor.skip 1).rest := by
  obtain ⟨items, next, hbracket, rfl, -, -⟩ := openClass_eq_ok_iff.mp hopen
  obtain ⟨c, hmember⟩ := hbracket.exists_mem
  exact moveTo_suffix_of_lt (lt_of_mem_counting_skip ((behindCaret_suffix _).subset hmember))

/-- A class between colons leaves an end of the text. -/
theorem scanNamed?_suffix {item : SizedClass} (hscan : scanNamed? cursor = some (item, behind)) :
    behind.rest <:+ cursor.rest := by
  obtain ⟨negated, name, sort, -, -, rfl, -⟩ := scanNamed?_eq_some_iff.mp hscan
  exact skip_suffix _ _

/-- A sign inside a bracket leaves an end of the text. -/
theorem scanClassSign_suffix {c : Char} {sign : Sign}
    (hscan : scanClassSign spaced c cursor = .ok (sign, behind)) : behind.rest <:+ cursor.rest := by
  unfold scanClassSign at hscan
  split at hscan
  · exact (scanEscape_suffix hscan).trans (skip_suffix _ _)
  · cases hscan
    exact skip_suffix _ _

/-- A character, escape or range inside a bracket leaves an end of the text. -/
theorem scanRange_suffix {unclosed : Fault} {c : Char} {item : SizedClass}
    (hscan : scanRange spaced unclosed c cursor = .ok (item, behind)) :
    behind.rest <:+ cursor.rest := by
  cases scanRange_eq_ok_iff.mp hscan with
  | single hlow => exact (settle_suffix _ spaced).trans (scanClassSign_suffix hlow)
  | range hlow hhyphen hpeek hupper hrest hhigh horder =>
      subst hupper
      have hnext := (settle_suffix _ spaced).trans (scanClassSign_suffix hlow)
      exact (scanClassSign_suffix hhigh).trans
        ((settle_suffix _ _).trans ((skip_suffix _ _).trans hnext))

/-- A part of a bracket leaves an end of the text. -/
theorem ClassReader.step_suffix {reader : ClassReader}
    {result : (SizedClass × Cursor) ⊕ ClassReader} (hstep : reader.step spaced = .ok result) :
    (Sum.elim Prod.snd ClassReader.cursor result).rest <:+ reader.cursor.rest := by
  refine List.IsSuffix.trans ?_ (settle_suffix reader.cursor spaced)
  cases ClassReader.step_eq_ok_iff.mp hstep with
  | named hstart hnamed => exact scanNamed?_suffix hnamed
  | opens hstart hnamed hopen => exact (openClass_suffix hopen).trans (skip_suffix _ _)
  | ends | closes | operator => exact skip_suffix _ _
  | range hstart hopens hcloses hoperator hrange => exact scanRange_suffix hrange

/-- The rest of a class leaves an end of the text. -/
theorem ClassReader.finish_suffix {parts : Nat} {reader : ClassReader} {content : SizedClass}
    (hfinish : ClassReader.finish spaced parts reader = .ok (content, behind)) :
    behind.rest <:+ reader.cursor.rest := by
  induction parts generalizing reader with
  | zero => cases hfinish
  | succ parts ih =>
      unfold ClassReader.finish at hfinish
      split at hfinish
      · cases hfinish
      · rename_i hstep
        cases hfinish
        exact ClassReader.step_suffix hstep
      · rename_i hstep
        exact (ih hfinish).trans (ClassReader.step_suffix hstep)

/-- A class leaves an end of what is behind its opening bracket. -/
theorem scanClass_suffix {content : SizedClass}
    (hscan : scanClass spaced cursor = .ok (content, behind)) :
    behind.rest <:+ (cursor.skip 1).rest := by
  obtain ⟨⟨inside, level, frame⟩, hopen, hfinish⟩ := eq_ok_of_bind hscan
  exact (ClassReader.finish_suffix hfinish).trans (openClass_suffix hopen)

/-! ### What a step can do -/

/-- Where one of the operators `?`, `*` and `+` ends: behind the question mark that makes it
reluctant, if there is one. -/
def operatorEnd (cursor : Cursor) : Cursor :=
  match (cursor.skip 1).rest with
  | '?' :: _ => (cursor.skip 1).skip 1
  | _ => cursor.skip 1

/-- The parts of a pattern that neither open nor close a group, by their first characters, and where
they end. -/
inductive PartEnds (spaced : Bool) (cursor : Cursor) : Char → Cursor → Prop
  | bar : PartEnds spaced cursor '|' (cursor.skip 1)
  | bracket {content : SizedClass} {behind : Cursor}
      (hscan : scanClass spaced cursor = .ok (content, behind)) : PartEnds spaced cursor '[' behind
  | operator {c : Char} (hc : c ∈ ['?', '*', '+']) : PartEnds spaced cursor c (operatorEnd cursor)
  | counted {repetition : Repetition} {behind : Cursor}
      (hscan : scanCounted spaced cursor = .ok (repetition, behind)) :
      PartEnds spaced cursor '{' behind
  | sign {c : Char} {sign : Sign} {behind : Cursor} (hc : c ∉ opening)
      (hscan : scanSign spaced c cursor = .ok (sign, behind)) : PartEnds spaced cursor c behind

/-- A part leaves an end of what is behind its first character. -/
theorem PartEnds.suffix {c : Char} (hends : PartEnds spaced cursor c behind) :
    behind.rest <:+ (cursor.skip 1).rest := by
  cases hends with
  | bar => exact List.suffix_rfl
  | bracket hscan => exact scanClass_suffix hscan
  | operator hc =>
      unfold operatorEnd
      split
      · exact skip_suffix _ _
      · exact List.suffix_rfl
  | counted hscan => exact scanCounted_suffix hscan
  | sign hc hscan => exact scanSign_suffix hscan

/-- The flags behind an opening. -/
def Opening.flagsFrom (flags : Flags) : Opening → Flags
  | .capture _ => flags
  | .group list => flags.apply list
  | .flags list => flags.apply list

/-- Whether an opening opens a group. -/
def Opening.isGroup : Opening → Bool
  | .capture _ => true
  | .group _ => true
  | .flags _ => false

/-- What one step does to the place, the flags and the open groups of a reader. -/
inductive Reader.Steps (reader : Reader) : Char → Reader → Prop
  | part {c : Char} {next : Reader}
      (hends : PartEnds reader.flags.spaced reader.cursor c next.cursor)
      (hflags : next.flags = reader.flags) (hframes : next.frames = reader.frames) :
      reader.Steps c next
  | opens {opening : Opening} {next : Reader}
      (hscan : scanOpening reader.flags.spaced reader.cursor = .ok (opening, next.cursor))
      (hflags : next.flags = opening.flagsFrom reader.flags)
      (hframes : next.frames = if opening.isGroup then
        ⟨reader.level, reader.flags, reader.cursor.position⟩ :: reader.frames else reader.frames) :
      reader.Steps '(' next
  | closes {next : Reader} {frame : Frame} (hcursor : next.cursor = reader.cursor.skip 1)
      (hflags : next.flags = frame.flags) (hframes : reader.frames = frame :: next.frames) :
      reader.Steps ')' next

namespace Reader

variable {reader next : Reader} {c : Char}

/-- A repetition changes the last piece only, besides the place. -/
theorem eq_of_repeatLast {least : Nat} {most : Option Nat} {greedy : Bool}
    (hrepeat : reader.repeatLast behind least most greedy = .ok next) :
    next.cursor = behind ∧ next.flags = reader.flags ∧ next.frames = reader.frames := by
  unfold repeatLast at hrepeat
  dsimp only at hrepeat
  split at hrepeat
  · cases hrepeat
  · split at hrepeat
    · cases hrepeat
      exact ⟨rfl, rfl, rfl⟩
    · cases hrepeat

/-- An operator ends behind the question mark that makes it reluctant, if there is one. -/
theorem Steps.of_operator {least : Nat} {most : Option Nat} (hc : c ∈ ['?', '*', '+'])
    (hoperator : reader.operator least most = .ok next) : reader.Steps c next := by
  obtain ⟨greedy, hrepeat⟩ : ∃ greedy,
      reader.repeatLast (operatorEnd reader.cursor) least most greedy = .ok next := by
    rcases hrest : (reader.cursor.skip 1).rest with - | ⟨d, tail⟩
    · exact ⟨true, by simpa [operator, operatorEnd, hrest] using hoperator⟩
    · by_cases hd : d = '?'
      · subst hd
        exact ⟨false, by simpa [operator, operatorEnd, hrest] using hoperator⟩
      · exact ⟨true, by simpa [operator, operatorEnd, hrest, hd] using hoperator⟩
  obtain ⟨hcursor, hflags, hframes⟩ := eq_of_repeatLast hrepeat
  exact .part (hcursor ▸ .operator hc) hflags hframes

/-- Whatever is added, the flags and the open groups stay. -/
theorem flags_frames_push (reader : Reader) (behind : Cursor) (depth : Nat)
    (node : Except Fault Node) :
    (reader.push behind depth node).flags = reader.flags ∧
      (reader.push behind depth node).frames = reader.frames := by
  cases node <;> exact ⟨rfl, rfl⟩

/-- Besides the openings, bars, brackets and repetitions a step reads one sign. -/
theorem step_eq_of_not_mem (hc : c ∉ opening) : reader.step c = do
    let (sign, behind) ← scanSign reader.flags.spaced c reader.cursor
    return reader.push behind 0
      (reader.flags.node ⟨reader.cursor.position, behind.position⟩ sign) := by
  unfold step
  split
  all_goals first | rfl | exact absurd (by decide) hc

/-- A step that succeeds is one of these. -/
theorem steps_of_step (hstep : reader.step c = .ok next) : reader.Steps c next := by
  by_cases hc : c ∈ opening
  · have hcases : c = '(' ∨ c = ')' ∨ c = '|' ∨ c = '[' ∨ c = '?' ∨ c = '*' ∨ c = '+' ∨
        c = '{' := by
      simpa [opening] using hc
    rcases hcases with rfl | rfl | rfl | rfl | rfl | rfl | rfl | rfl
    · obtain ⟨⟨opening, behind⟩, hscan, hopen⟩ := eq_ok_of_bind hstep
      dsimp only at hopen
      split at hopen
      · cases hopen
        exact .opens hscan rfl rfl
      · cases hopen
        exact .opens hscan rfl rfl
      · cases hopen
        exact .opens hscan rfl rfl
      · split at hopen
        · cases hopen
        · cases hopen
          exact .opens hscan rfl rfl
    · have hclose : reader.closeGroup = .ok next := hstep
      unfold closeGroup at hclose
      split at hclose
      · cases hclose
      · rename_i frame frames hframes
        cases hclose
        exact .closes rfl rfl hframes
    · cases hstep
      exact .part .bar rfl rfl
    · obtain ⟨⟨content, behind⟩, hscan, hpush⟩ := eq_ok_of_bind hstep
      cases hpush
      obtain ⟨hflags, hframes⟩ := reader.flags_frames_push behind content.depth _
      refine .part ?_ hflags hframes
      rw [cursor_push]
      exact .bracket hscan
    · exact .of_operator (by decide) hstep
    · exact .of_operator (by decide) hstep
    · exact .of_operator (by decide) hstep
    · have hcounted : reader.counted = .ok next := hstep
      unfold counted at hcounted
      dsimp only at hcounted
      split at hcounted
      · cases hcounted
      · obtain ⟨⟨repetition, behind⟩, hscan, hrepeat⟩ := eq_ok_of_bind hcounted
        obtain ⟨hcursor, hflags, hframes⟩ := eq_of_repeatLast hrepeat
        exact .part (hcursor ▸ .counted hscan) hflags hframes
  · rw [step_eq_of_not_mem hc] at hstep
    obtain ⟨⟨sign, behind⟩, hscan, hpush⟩ := eq_ok_of_bind hstep
    cases hpush
    obtain ⟨hflags, hframes⟩ := reader.flags_frames_push behind 0 _
    refine .part ?_ hflags hframes
    rw [cursor_push]
    exact .sign hc hscan

/-- A step leaves an end of what is behind the first character. -/
theorem Steps.suffix (hsteps : reader.Steps c next) :
    next.cursor.rest <:+ (reader.cursor.skip 1).rest := by
  cases hsteps with
  | part hends hflags hframes => exact hends.suffix
  | opens hscan hflags hframes => exact scanOpening_suffix hscan
  | closes hcursor hflags hframes => exact hcursor ▸ List.suffix_rfl

end Reader

end Orthography.Pattern
