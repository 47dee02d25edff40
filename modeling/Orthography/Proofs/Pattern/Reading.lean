import Orthography.Pattern.Reader
import Orthography.Pattern.Scan

/-!
# Reading patterns that were put together

How texts that are built from escaped characters, groups, bars and operators are read.  A text takes
the pieces of the innermost group from one state to another (`Reads`), whatever is read around the
group; texts one behind the other do so in turn.
-/

namespace Orthography.Pattern

/-! ### Going on -/

/-- With enough parts allowed, reading ends the same from one state as from a later one. -/
def Reader.LeadsTo (reader later : Reader) : Prop :=
  ∀ parts, reader.cursor.rest.length < parts →
    ∃ fewer, later.cursor.rest.length < fewer ∧
      Reader.finish parts reader = Reader.finish fewer later

namespace Reader

/-- Nothing was read. -/
theorem LeadsTo.refl (reader : Reader) : reader.LeadsTo reader :=
  fun parts hparts => ⟨parts, hparts, rfl⟩

/-- Reading goes on. -/
theorem LeadsTo.trans {reader later last : Reader} (hfirst : reader.LeadsTo later)
    (hsecond : later.LeadsTo last) : reader.LeadsTo last := by
  intro parts hparts
  obtain ⟨fewer, hfewer, hsame⟩ := hfirst parts hparts
  obtain ⟨least, hleast, hrest⟩ := hsecond fewer hfewer
  exact ⟨least, hleast, hsame.trans hrest⟩

/-- Without the flag for it, blanks are not passed over. -/
theorem settled_eq {reader : Reader} (hspaced : reader.flags.spaced = false) :
    { reader with cursor := reader.cursor.settle reader.flags.spaced } = reader := by
  rw [hspaced]
  rfl

/-- One part is read. -/
theorem leadsTo_of_step {reader next : Reader} {c : Char} {rest : Text}
    (hspaced : reader.flags.spaced = false) (hstart : reader.cursor.rest = c :: rest)
    (hstep : reader.step c = .ok next) (hless : next.cursor.rest.length ≤ rest.length) :
    reader.LeadsTo next := by
  intro parts hparts
  rw [hstart, List.length_cons] at hparts
  cases parts with
  | zero => omega
  | succ parts =>
      refine ⟨parts, by omega, ?_⟩
      rw [Reader.finish, settled_eq hspaced, hstart]
      simp only [hstep]

/-- At the end of the text the result is there. -/
theorem finish_of_rest_eq_nil {reader : Reader} {parts : Nat}
    (hspaced : reader.flags.spaced = false) (hnone : reader.cursor.rest = []) :
    Reader.finish parts reader = reader.result := by
  cases parts with
  | zero => rfl
  | succ parts => rw [Reader.finish, settled_eq hspaced, hnone]

end Reader

/-! ### Levels -/

variable {ignoreCase : Bool} {level next last : Level} {rest : Text}

/-- A text in front of some rest is read so that it takes the pieces of a group from one state to
another. -/
def Reads (ignoreCase : Bool) (text rest : Text) (level next : Level) : Prop :=
  ∀ reader : Reader, reader.flags = .initial ignoreCase → reader.level = level →
    reader.cursor.rest = text ++ rest →
      reader.LeadsTo { reader with cursor := reader.cursor.skip text.length, level := next }

namespace Reads

/-- The empty text changes nothing. -/
theorem nil (level : Level) : Reads ignoreCase [] rest level level := by
  rintro reader - rfl -
  exact .refl reader

/-- Texts are read one behind the other. -/
theorem append {first second : Text} (hfirst : Reads ignoreCase first (second ++ rest) level next)
    (hsecond : Reads ignoreCase second rest next last) :
    Reads ignoreCase (first ++ second) rest level last := by
  intro reader hflags hlevel hstart
  rw [List.append_assoc] at hstart
  refine (hfirst reader hflags hlevel hstart).trans ?_
  have hbehind : (reader.cursor.skip first.length).rest = second ++ rest := by
    rw [Cursor.skip, hstart, List.drop_left]
  have hskip : (reader.cursor.skip first.length).skip second.length =
      reader.cursor.skip (first ++ second).length := by
    simp only [Cursor.skip, List.drop_drop, List.length_append, Nat.add_assoc]
  have hrest := hsecond { reader with cursor := reader.cursor.skip first.length, level := next }
    hflags rfl hbehind
  rwa [hskip] at hrest

/-- A text that is one part. -/
theorem of_step {c : Char} {text : Text}
    (hstep : ∀ reader : Reader, reader.flags = .initial ignoreCase → reader.level = level →
      reader.cursor.rest = c :: text ++ rest → reader.step c =
        .ok { reader with cursor := reader.cursor.skip (c :: text).length, level := next }) :
    Reads ignoreCase (c :: text) rest level next := by
  intro reader hflags hlevel hstart
  refine Reader.leadsTo_of_step (by rw [hflags]; rfl) hstart (hstep reader hflags hlevel hstart) ?_
  have hbehind : (reader.cursor.skip (c :: text).length).rest = rest := by
    rw [Cursor.skip, hstart, List.drop_left]
  have hlength : rest.length ≤ (text ++ rest).length := by
    rw [List.length_append]
    exact Nat.le_add_left _ _
  exact hbehind ▸ hlength

end Reads

/-! ### Parts -/

/-- The piece that a character stands for. -/
def literalPiece (ignoreCase : Bool) (c : Char) : Piece :=
  ⟨.char ((Flags.initial ignoreCase).literal c), 0, true⟩

/-- The characters that start something else than a sign. -/
def opening : List Char := ['(', ')', '|', '[', '?', '*', '+', '{']

/-- A sign is read. -/
theorem step_eq_of_sign {reader : Reader} {c : Char} {sign : Sign} {node : Node} {behind : Cursor}
    (hflags : reader.flags = .initial ignoreCase) (hlevel : reader.level = level)
    (hc : c ∉ opening) (hscan : scanSign false c reader.cursor = .ok (sign, behind))
    (hnode : ∀ span, (Flags.initial ignoreCase).node span sign = .ok node) :
    reader.step c =
      .ok { reader with cursor := behind, level := level.push ⟨node, 0, true⟩ } := by
  have hstep : reader.step c =
      (scanSign reader.flags.spaced c reader.cursor).bind fun found =>
        .ok (reader.push found.2 0
          (reader.flags.node ⟨reader.cursor.position, found.2.position⟩ found.1)) := by
    unfold Reader.step
    split
    all_goals first | rfl | exact absurd (by decide) hc
  have hspaced : (Flags.initial ignoreCase).spaced = false := rfl
  rw [hstep, hflags, hspaced, hscan]
  simp only [Except.bind, hnode, Reader.push, hlevel, hflags]

/-- An escaped character is read as itself. -/
theorem reads_escapeChar (c : Char) :
    Reads ignoreCase (escapeChar c) rest level (level.push (literalPiece ignoreCase c)) := by
  have hliteral (span : Span) : (Flags.initial ignoreCase).node span (.literal c false) =
      .ok (.char ((Flags.initial ignoreCase).literal c)) := rfl
  unfold escapeChar
  split
  · rename_i hmeta
    refine .of_step fun reader hflags hlevel hstart => ?_
    have hdigit : c.isDigit = false := by
      have hmembers : ['\\', '.', '+', '*', '?', '(', ')', '|', '[', ']', '{', '}', '^', '$',
          '#', '&', '-', '~'].all (!·.isDigit) = true := by decide
      simpa using List.all_eq_true.mp hmembers c (List.contains_iff_mem.mp hmeta)
    have hescapable : isEscapable c = true := by
      rw [isEscapable, hmeta, Bool.true_or]
    have hscan : scanSign false '\\' reader.cursor =
        .ok (.literal c false, reader.cursor.skip 2) := by
      simp [scanSign, scanEscape, hstart, hdigit, hescapable]
    exact step_eq_of_sign hflags hlevel (by decide) hscan hliteral
  · rename_i hplain
    refine .of_step fun reader hflags hlevel hstart => ?_
    have hmembers : opening.all isMeta = true := by decide
    have hopening : c ∉ opening := fun hc => hplain (List.all_eq_true.mp hmembers c hc)
    have hscan : scanSign false c reader.cursor = .ok (.literal c false, reader.cursor.skip 1) := by
      unfold scanSign
      split
      all_goals first | rfl | exact absurd rfl hplain
    exact step_eq_of_sign hflags hlevel hopening hscan hliteral

/-- The level behind the characters of a text. -/
def Level.spell (ignoreCase : Bool) (level : Level) (text : Text) : Level :=
  text.foldl (fun level c => level.push (literalPiece ignoreCase c)) level

/-- An escaped text is read as its characters. -/
theorem reads_escape (text : Text) :
    Reads ignoreCase (escape text) rest level (level.spell ignoreCase text) := by
  induction text generalizing level with
  | nil => exact .nil level
  | cons c text ih => exact (reads_escapeChar c).append ih

/-- A bar starts the next alternative. -/
theorem reads_bar : Reads ignoreCase ['|'] rest level level.bar :=
  .of_step fun _ _ hlevel _ => hlevel ▸ rfl

/-- The level behind some alternatives that were put behind those of a level. -/
def Level.spellEach (ignoreCase : Bool) (level : Level) (texts : List Text) : Level :=
  texts.foldl (fun level text => level.bar.spell ignoreCase text) level

/-- Escaped texts with bars between them are read as alternatives. -/
theorem reads_alternatives (first : Text) (others : List Text) :
    Reads ignoreCase (['|'].intercalate ((first :: others).map escape)) rest level
      ((level.spell ignoreCase first).spellEach ignoreCase others) := by
  induction others generalizing first level with
  | nil =>
      rw [List.map_singleton, List.intercalate_singleton]
      exact reads_escape first
  | cons second others ih =>
      rw [List.map_cons, List.map_cons, List.intercalate_cons_cons, ← List.map_cons,
        List.append_assoc]
      exact (reads_escape first).append (reads_bar.append (ih second))

/-- The start of the text is asked for. -/
theorem reads_textStart :
    Reads ignoreCase ['^'] rest level (level.push ⟨.place .textStart, 0, true⟩) :=
  .of_step fun _ hflags hlevel _ => step_eq_of_sign hflags hlevel (by decide) rfl fun _ => rfl

/-- The end of the text is asked for. -/
theorem reads_textEnd : Reads ignoreCase ['$'] rest level (level.push ⟨.place .textEnd, 0, true⟩) :=
  .of_step fun _ hflags hlevel _ => step_eq_of_sign hflags hlevel (by decide) rfl fun _ => rfl

/-- The operators and the bounds of the repetitions that they stand for. -/
inductive Operates : Char → Nat → Option Nat → Prop
  | any : Operates '*' 0 none
  | some : Operates '+' 1 none
  | optional : Operates '?' 0 (some 1)

/-- An operator repeats the last piece. -/
theorem reads_operator {operator : Char} {least : Nat} {most : Option Nat} {piece : Piece}
    (hoperator : Operates operator least most) (hrepeatable : piece.repeatable = true)
    (hrest : rest.head? ≠ some '?') :
    Reads ignoreCase [operator] rest (level.push piece)
      (level.push ⟨.repeated piece.node least most true, 1 + piece.depth, true⟩) := by
  refine .of_step fun reader hflags hlevel hstart => ?_
  have hbehind : (reader.cursor.skip 1).rest = rest := by
    rw [Cursor.skip, hstart]
    rfl
  have hstep : reader.step operator = reader.operator least most := by
    cases hoperator <;> rfl
  have hreluctant : ∀ more, (reader.cursor.skip 1).rest ≠ '?' :: more := by
    rintro more hmore
    exact hrest (by rw [← hbehind, hmore]; rfl)
  have hgreedy : (true != reader.flags.swapGreed) = true := by
    rw [hflags]
    rfl
  have hoperates : reader.operator least most =
      reader.repeatLast (reader.cursor.skip 1) least most true := by
    unfold Reader.operator
    dsimp only
    split
    · rename_i more hmore
      exact absurd hmore (hreluctant more)
    · rfl
  rw [hstep, hoperates]
  simp only [Reader.repeatLast, hlevel, Level.push, hrepeatable, if_true, hgreedy]
  rfl

/-- The start of a group that is not captured. -/
theorem scanOpening_group {cursor : Cursor} {behind : Text}
    (hstart : cursor.rest = '(' :: '?' :: ':' :: behind) :
    scanOpening false cursor = .ok (.group ⟨[], none⟩, cursor.skip 3) := by
  have hlook : lookAroundSigns.find? (·.isPrefixOf ('?' :: ':' :: behind)) = none := by
    simp [lookAroundSigns, List.isPrefixOf]
  have hnamed : [['?', 'P', '<'], ['?', '<']].find?
      (·.isPrefixOf ('?' :: ':' :: behind)) = none := by
    simp [List.isPrefixOf]
  simp only [scanOpening, Cursor.settle, Cursor.skip, hstart, List.drop_succ_cons, List.drop_zero,
    Bool.false_eq_true, if_false, hlook, hnamed]
  rfl

/-- A group is entered behind its start. -/
theorem leadsTo_enter {reader : Reader} {behind : Text} (hspaced : reader.flags.spaced = false)
    (hstart : reader.cursor.rest = '(' :: '?' :: ':' :: behind) :
    reader.LeadsTo (reader.enter (reader.cursor.skip 3) reader.flags reader.names) := by
  refine Reader.leadsTo_of_step hspaced hstart ?_ ?_
  · have hstep : reader.step '(' = reader.openGroup := rfl
    rw [hstep, Reader.openGroup, hspaced, scanOpening_group hstart]
    rfl
  · change (reader.cursor.rest.drop 3).length ≤ _
    rw [List.length_drop, hstart, List.length_cons]
    omega

/-- A group is read as one piece, of what is read in its parentheses. -/
theorem reads_group {text : Text} {inner : Level}
    (hinner : Reads ignoreCase text (')' :: rest) .start inner) :
    Reads ignoreCase ("(?:".toList ++ text ++ [')']) rest level
      (level.push ⟨inner.whole.node, 1 + inner.whole.depth, true⟩) := by
  intro reader hflags hlevel hstart
  have hspaced : reader.flags.spaced = false := by
    rw [hflags]
    rfl
  have htext : reader.cursor.rest = '(' :: '?' :: ':' :: (text ++ ')' :: rest) := by
    rw [hstart]
    simp
  let opened := reader.enter (reader.cursor.skip 3) reader.flags reader.names
  have hinside : opened.cursor.rest = text ++ ')' :: rest := by
    change (reader.cursor.skip 3).rest = _
    rw [Cursor.skip, htext]
    rfl
  refine ((leadsTo_enter hspaced htext).trans (hinner opened hflags rfl hinside)).trans ?_
  have hend : (opened.cursor.skip text.length).rest = ')' :: rest := by
    rw [Cursor.skip, hinside, List.drop_left]
  have hskip : ((reader.cursor.skip 3).skip text.length).skip 1 =
      reader.cursor.skip ("(?:".toList ++ text ++ [')']).length := by
    have hlength : ("(?:".toList ++ text ++ [')']).length = 3 + text.length + 1 := by
      rw [List.length_append, List.length_append]
      rfl
    simp only [Cursor.skip, List.drop_drop, hlength, Nat.add_assoc]
  have hclose : ({ opened with
      cursor := opened.cursor.skip text.length, level := inner } : Reader).step ')' =
        .ok { reader with
          cursor := reader.cursor.skip ("(?:".toList ++ text ++ [')']).length
          level := level.push ⟨inner.whole.node, 1 + inner.whole.depth, true⟩ } := by
    rw [← hskip, ← hlevel]
    rfl
  have hbehind : (reader.cursor.skip ("(?:".toList ++ text ++ [')']).length).rest = rest := by
    rw [Cursor.skip, hstart, List.drop_left]
  exact Reader.leadsTo_of_step hspaced hend hclose (Nat.le_of_eq (congrArg List.length hbehind))

/-- A text that is a pattern is read to its end. -/
theorem finish_of_read {ignoreCase : Bool} {text : Text} {node : Node}
    (hread : Node.read ignoreCase text = .ok node) :
    Reader.finish (text.length + 1) (.start ignoreCase text) = .ok node := by
  unfold Node.read at hread
  split at hread
  · rename_i found hfound
    cases hread
    exact hfound
  · cases hread

/-- What is read from the start to the end of a text is its pattern, unless that nests too deep. -/
theorem read_of_reads {text : Text} (hreads : Reads ignoreCase text [] .start level)
    (hdepth : level.whole.depth ≤ nestingLimit) :
    Node.read ignoreCase text = .ok level.whole.node := by
  obtain ⟨fewer, -, hfinish⟩ := hreads (.start ignoreCase text) rfl rfl (List.append_nil text).symm
    (text.length + 1) (Nat.lt_succ_self _)
  have hnone : ((Reader.start ignoreCase text).cursor.skip text.length).rest = [] :=
    List.drop_length
  have hresult : Reader.finish (text.length + 1) (.start ignoreCase text) =
      .ok level.whole.node := by
    rw [hfinish.trans (Reader.finish_of_rest_eq_nil rfl hnone), Reader.result]
    simp only [Reader.start, Nat.not_lt.mpr hdepth, if_false]
  rw [Node.read, hresult]

end Orthography.Pattern
