import Orthography.Proofs.Pattern.ClassScanning
import Orthography.Proofs.Pattern.Reading
import Orthography.Proofs.Pattern.Width

/-!
# Conditions of fixed width

A condition at the end of a word is read as a group around its text with an anchor behind it.  If
its text is of fixed width, the reader meets no bar and no repetition, so what it has read is one
sequence of signs and groups, whose last part is the anchor.  Each sign takes up at least one
character of the text and matches at most one, and so the condition is no wider than it is written
with.
-/

namespace Orthography.Pattern

open Removal (isFixedWidth)

/-- Whether a character of a text can stand for characters of a word: not if it is a parenthesis or
the anchor. -/
def counts (c : Char) : Bool := c ∉ ['(', ')', '$']

/-- How many characters a text can match at most, judging by its own. -/
def room (text : Text) : Nat := text.countP counts

/-- Behind one character that is passed over stands what follows it. -/
theorem rest_skip_one {cursor : Cursor} {c : Char} {rest : Text}
    (hstart : cursor.rest = c :: rest) : (cursor.skip 1).rest = rest := by
  rw [Cursor.skip, hstart, List.drop_succ_cons, List.drop_zero]

/-- What is left of a text has no more room than the text. -/
theorem room_le_of_suffix {rest text : Text} (hsuffix : rest <:+ text) : room rest ≤ room text :=
  hsuffix.sublist.countP_le

/-- A text has no more room than characters. -/
theorem room_le_length (text : Text) : room text ≤ text.length :=
  List.countP_le_length

/-! ### The width of what has been read -/

/-- The width of the pieces since the last bar. -/
def Level.width (level : Level) : ℕ∞ := (level.pieces.map (·.node.width)).sum

@[simp] theorem Level.width_start : Level.start.width = 0 := rfl

@[simp] theorem Level.width_push (level : Level) (piece : Piece) :
    (level.push piece).width = piece.node.width + level.width := by
  simp [width, push]

/-- The pieces of a level in sequence, the first of them first. -/
theorem Level.node_sequence (level : Level) :
    level.sequence.node = level.pieces.foldl (fun rest piece => .seq piece.node rest) .empty := by
  unfold sequence
  split <;> rfl

/-- A sequence put in front of another one adds its width. -/
theorem width_foldl_seq (pieces : List Piece) (last : Node) :
    (pieces.foldl (fun rest piece => .seq piece.node rest) last).width =
      (pieces.map (·.node.width)).sum + last.width := by
  induction pieces generalizing last with
  | nil => simp
  | cons piece pieces ih =>
      rw [List.foldl_cons, ih, Node.width, List.map_cons, List.sum_cons]
      ac_rfl

/-- Without bars all of a level is one sequence, as wide as its pieces together. -/
theorem Level.width_whole {level : Level} (hbranches : level.branches = []) :
    level.whole.node.width = level.width := by
  unfold whole
  rw [hbranches, node_sequence, width_foldl_seq, Node.width, add_zero, width]

/-- Pieces put in front do not change where a sequence ends. -/
theorem endsText_foldl_seq (pieces : List Piece) {last : Node} (hlast : last.EndsText) :
    (pieces.foldl (fun rest piece => .seq piece.node rest) last).EndsText := by
  induction pieces generalizing last with
  | nil => exact hlast
  | cons piece pieces ih => exact ih (hlast.seq piece.node)

/-- The width of everything that has been read, inside the open groups and around them. -/
def Reader.width (reader : Reader) : ℕ∞ :=
  reader.level.width + (reader.frames.map (·.outer.width)).sum

/-! ### Where the reader is -/

/-- What is left of an anchored text: more than the anchor, or the anchor alone, or nothing, and
then the anchor was read last. -/
def Anchored (level : Level) (rest : Text) : Prop :=
  [')', '$'] <:+ rest ∨ rest = ['$'] ∨
    rest = [] ∧ ∃ piece pieces, level.pieces = piece :: pieces ∧ piece.node = .place .textEnd

/-- The end of an anchored text that is not empty is anchored. -/
theorem anchored_of_suffix {rest text : Text} (level : Level) (hanchor : [')', '$'] <:+ text)
    (hsuffix : rest <:+ text) (hrest : rest ≠ []) : Anchored level rest := by
  by_cases hlength : 2 ≤ rest.length
  · exact .inl (List.suffix_of_suffix_length_le hanchor hsuffix hlength)
  · have hone : rest.length = 1 := by
      have := List.length_pos_iff.mpr hrest
      omega
    have hshort := List.suffix_of_suffix_length_le hsuffix
      ((List.suffix_cons ')' ['$']).trans hanchor) (by rw [hone]; rfl)
    exact .inr (.inl (hshort.eq_of_length hone))

/-- Behind a character of an anchored text stands an anchored text, unless the character is the last
parenthesis or the anchor itself. -/
theorem anchored_cases {level : Level} {c : Char} {rest : Text}
    (hanchored : Anchored level (c :: rest)) :
    [')', '$'] <:+ rest ∨ (c = ')' ∧ rest = ['$']) ∨ (c = '$' ∧ rest = []) := by
  rcases hanchored with hmore | hend | ⟨hnone, -⟩
  · rcases List.suffix_cons_iff.mp hmore with hsame | hmore
    · obtain ⟨rfl, rfl⟩ := List.cons.inj hsame
      exact .inr (.inl ⟨rfl, rfl⟩)
    · exact .inl hmore
  · exact .inr (.inr (List.cons.inj hend))
  · cases hnone

/-- A reader of a text of fixed width in an anchored group: the flags are those of the start, no bar
was read, and what was read and what is left together are no wider than the limit. -/
structure Reader.Fixed (limit : Nat) (reader : Reader) : Prop where
  flags : reader.flags = .initial false
  frameFlags : ∀ frame ∈ reader.frames, frame.flags = .initial false
  branches : reader.level.branches = []
  frameBranches : ∀ frame ∈ reader.frames, frame.outer.branches = []
  fixed : isFixedWidth reader.cursor.rest = true
  budget : reader.width + room reader.cursor.rest ≤ limit
  anchored : Anchored reader.level reader.cursor.rest

/-! ### One step -/

/-- Without flags beyond those of the start, a sign matches at most one character. -/
theorem width_node_le {flags : Flags} {span : Span} {sign : Sign} {node : Node}
    (hnode : flags.node span sign = .ok node) : node.width ≤ 1 := by
  cases sign with
  | literal c byte =>
      rw [Flags.node] at hnode
      split at hnode
      · cases hnode
      · cases hnode
        rfl
  | dot =>
      rw [Flags.node] at hnode
      split at hnode
      · cases hnode
      · split at hnode
        · cases hnode
          rfl
        · split at hnode <;>
          · cases hnode
            rfl
  | place sign =>
      cases hnode
      exact zero_le_one
  | letterClass sort negated =>
      obtain ⟨set, -, hset⟩ := eq_ok_of_bind hnode
      cases hset
      rfl
  | property name negated =>
      obtain ⟨set, -, hset⟩ := eq_ok_of_bind hnode
      cases hset
      rfl

namespace Reader

variable {limit : Nat} {reader next : Reader} {c : Char} {rest : Text} {behind : Cursor}

/-- Whatever is added, the reader stands behind it. -/
theorem cursor_push (reader : Reader) (behind : Cursor) (depth : Nat) (node : Except Fault Node) :
    (reader.push behind depth node).cursor = behind := by
  cases node <;> rfl

/-- A sign that takes up a character that counts may be added. -/
theorem Fixed.push (hreader : reader.Fixed limit) (hstart : reader.cursor.rest = c :: rest)
    (hc : counts c = true) (hsuffix : behind.rest <:+ rest)
    (hfixed : isFixedWidth behind.rest = true) (hrest : behind.rest ≠ []) {depth : Nat}
    {node : Except Fault Node} (hnode : ∀ read, node = .ok read → read.width ≤ 1) :
    (reader.push behind depth node).Fixed limit := by
  have hanchor : Anchored (reader.push behind depth node).level behind.rest := by
    have hstill := hreader.anchored
    rw [hstart] at hstill
    rcases hstill with hmore | hend | ⟨hnone, -⟩
    · exact anchored_of_suffix _ hmore (hsuffix.trans (List.suffix_cons c rest)) hrest
    · obtain ⟨rfl, -⟩ := List.cons.inj hend
      exact absurd hc (by decide)
    · cases hnone
  have hroom : room behind.rest + 1 ≤ room reader.cursor.rest := by
    rw [hstart, room, room, List.countP_cons_of_pos hc]
    exact Nat.add_le_add_right (room_le_of_suffix hsuffix) 1
  obtain ⟨piece, late, hwidth, hpush⟩ : ∃ (piece : Piece) (late : Option Fault),
      piece.node.width ≤ 1 ∧ reader.push behind depth node =
        { reader with cursor := behind, level := reader.level.push piece, late := late } := by
    cases node with
    | ok read => exact ⟨⟨read, depth, true⟩, reader.late, hnode read rfl, rfl⟩
    | error fault => exact ⟨⟨.never, depth, true⟩, reader.late.or (some fault), le_rfl, rfl⟩
  rw [hpush] at hanchor ⊢
  refine ⟨hreader.flags, hreader.frameFlags, hreader.branches, hreader.frameBranches, hfixed, ?_,
    hanchor⟩
  calc (reader.level.push piece).width + (reader.frames.map (·.outer.width)).sum
        + (room behind.rest : ℕ∞)
      = reader.width + (room behind.rest + piece.node.width) := by
        rw [Level.width_push, width]
        ac_rfl
    _ ≤ reader.width + (room behind.rest + 1) := by gcongr
    _ ≤ reader.width + room reader.cursor.rest := by
        gcongr
        exact_mod_cast hroom
    _ ≤ limit := hreader.budget

/-- What is left behind a character of an anchored text, unless that is the last parenthesis or the
anchor itself. -/
theorem Fixed.anchored_tail (hreader : reader.Fixed limit)
    (hstart : reader.cursor.rest = c :: rest) (hc : c ≠ ')') (hlast : c ≠ '$') (level : Level) :
    Anchored level rest := by
  rcases anchored_cases (hstart ▸ hreader.anchored) with hmore | ⟨hcloses, -⟩ | ⟨hdollar, -⟩
  · exact .inl hmore
  · exact absurd hcloses hc
  · exact absurd hdollar hlast

/-- What has been read and what is left behind the next character are within the limit. -/
theorem Fixed.budget_tail (hreader : reader.Fixed limit) (hstart : reader.cursor.rest = c :: rest) :
    reader.width + room rest ≤ limit := by
  have hroom : room rest ≤ room reader.cursor.rest := by
    rw [hstart]
    exact room_le_of_suffix (List.suffix_cons c rest)
  calc reader.width + room rest ≤ reader.width + room reader.cursor.rest := by gcongr
    _ ≤ limit := hreader.budget

/-- The anchor may be added. -/
theorem Fixed.pushAnchor (hreader : reader.Fixed limit) (hstart : reader.cursor.rest = '$' :: rest)
    {depth : Nat} :
    (reader.push (reader.cursor.skip 1) depth (.ok (.place .textEnd))).Fixed limit := by
  have hbehind : (reader.cursor.skip 1).rest = rest := rest_skip_one hstart
  have hfixed := hreader.fixed
  rw [hstart] at hfixed
  refine ⟨hreader.flags, hreader.frameFlags, hreader.branches, hreader.frameBranches, ?_, ?_, ?_⟩
  · exact hbehind ▸ isFixedWidth_tail (by decide) hfixed
  · calc ((reader.level.push ⟨.place .textEnd, depth, true⟩).width
          + (reader.frames.map (·.outer.width)).sum) + (room (reader.cursor.skip 1).rest : ℕ∞)
        = reader.width + room rest := by
          rw [Level.width_push, hbehind, Node.width, zero_add, width]
      _ ≤ limit := hreader.budget_tail hstart
  · show Anchored _ (reader.cursor.skip 1).rest
    rw [hbehind]
    rcases anchored_cases (hstart ▸ hreader.anchored) with hmore | ⟨hcloses, -⟩ | ⟨-, hnone⟩
    · exact .inl hmore
    · exact absurd hcloses (by decide)
    · exact .inr (.inr ⟨hnone, _, _, rfl, rfl⟩)

/-- A parenthesis in a text of fixed width opens a group without flags. -/
theorem scanOpening_eq {cursor : Cursor} (hstart : cursor.rest = '(' :: rest)
    (hfixed : isFixedWidth cursor.rest = true) :
    scanOpening false cursor = .ok (.capture none, cursor.skip 1) := by
  have hrest : (cursor.skip 1).rest = rest := rest_skip_one hstart
  rw [hstart] at hfixed
  have hquestion (more : Text) : rest ≠ '?' :: more := by
    rintro rfl
    exact absurd (head_ne_of_isFixedWidth (isFixedWidth_tail (by decide) hfixed)) (by decide)
  have hstarts (sign : Text) : ('?' :: sign).isPrefixOf rest = false := by
    cases rest with
    | nil => rfl
    | cons d more =>
        have hd : '?' ≠ d := by
          rintro rfl
          exact hquestion more rfl
        simp [List.isPrefixOf, hd]
  have hlook : lookAroundSigns.find? (·.isPrefixOf rest) = none := by
    simp [lookAroundSigns, hstarts]
  have hnamed : [['?', 'P', '<'], ['?', '<']].find? (·.isPrefixOf rest) = none := by
    simp [hstarts]
  simp only [scanOpening, Cursor.settle, Bool.false_eq_true, ↓reduceIte, hrest, hlook, hnamed]
  rfl

/-- A group may be opened. -/
theorem Fixed.openGroup (hreader : reader.Fixed limit) (hstart : reader.cursor.rest = '(' :: rest)
    (hopen : reader.openGroup = .ok next) : next.Fixed limit ∧ next.cursor.rest = rest := by
  have hbehind : (reader.cursor.skip 1).rest = rest := rest_skip_one hstart
  have hfixed := hreader.fixed
  rw [Reader.openGroup, hreader.flags, Flags.initial, scanOpening_eq hstart hfixed] at hopen
  cases hopen
  rw [hstart] at hfixed
  refine ⟨⟨rfl, ?_, rfl, ?_, ?_, ?_, ?_⟩, hbehind⟩
  · intro frame hframe
    rcases List.mem_cons.mp hframe with rfl | hframe
    · exact hreader.flags
    · exact hreader.frameFlags frame hframe
  · intro frame hframe
    rcases List.mem_cons.mp hframe with rfl | hframe
    · exact hreader.branches
    · exact hreader.frameBranches frame hframe
  · exact hbehind ▸ isFixedWidth_tail (by decide) hfixed
  · calc Reader.width _ + (room (reader.cursor.skip 1).rest : ℕ∞)
        = reader.width + room rest := by
          rw [hbehind, width, enter, Level.width_start, zero_add, List.map_cons, List.sum_cons]
          rfl
      _ ≤ limit := hreader.budget_tail hstart
  · show Anchored _ (reader.cursor.skip 1).rest
    rw [hbehind]
    exact hreader.anchored_tail hstart (by decide) (by decide) _

/-- A group may be closed. -/
theorem Fixed.closeGroup (hreader : reader.Fixed limit)
    (hstart : reader.cursor.rest = ')' :: rest) (hclose : reader.closeGroup = .ok next) :
    next.Fixed limit ∧ next.cursor.rest = rest := by
  have hbehind : (reader.cursor.skip 1).rest = rest := rest_skip_one hstart
  have hfixed := hreader.fixed
  rw [hstart] at hfixed
  unfold Reader.closeGroup at hclose
  split at hclose
  · cases hclose
  · rename_i frame frames hframes
    cases hclose
    have hframe : frame ∈ reader.frames := hframes ▸ List.mem_cons_self
    have hothers {other : Frame} (hother : other ∈ frames) : other ∈ reader.frames :=
      hframes ▸ List.mem_cons_of_mem _ hother
    refine ⟨⟨hreader.frameFlags frame hframe, fun other hother => ?_,
      hreader.frameBranches frame hframe, fun other hother => ?_, ?_, ?_, ?_⟩, hbehind⟩
    · exact hreader.frameFlags other (hothers hother)
    · exact hreader.frameBranches other (hothers hother)
    · exact hbehind ▸ isFixedWidth_tail (by decide) hfixed
    · calc Reader.width _ + (room (reader.cursor.skip 1).rest : ℕ∞)
          = reader.width + room rest := by
            rw [hbehind, width, width, hframes, Level.width_push,
              Level.width_whole hreader.branches, List.map_cons, List.sum_cons]
            dsimp only
            ac_rfl
        _ ≤ limit := hreader.budget_tail hstart
    · show Anchored _ (reader.cursor.skip 1).rest
      rw [hbehind]
      rcases anchored_cases (hstart ▸ hreader.anchored) with hmore | ⟨-, hlast⟩ | ⟨hdollar, -⟩
      · exact .inl hmore
      · exact .inr (.inl hlast)
      · exact absurd hdollar (by decide)

/-- A sign outside brackets is an escape or one character, and the anchor asks for the end of a
line. -/
theorem scanSign_takes {cursor : Cursor} {sign : Sign} (hstart : cursor.rest = c :: rest)
    (hfixed : isFixedWidth cursor.rest = true)
    (hscan : scanSign false c cursor = .ok (sign, behind)) :
    c = '\\' ∧ EscapeTakes cursor.rest behind.rest ∨
      c ≠ '\\' ∧ behind = cursor.skip 1 ∧ (c = '$' → sign = .place .lineEnd) := by
  unfold scanSign at hscan
  split at hscan
  · obtain ⟨text, position⟩ := cursor
    subst hstart
    exact .inl ⟨rfl, scanEscape_takes hfixed hscan⟩
  · cases hscan
    exact .inr ⟨by decide, rfl, by decide⟩
  · cases hscan
    exact .inr ⟨by decide, rfl, by decide⟩
  · cases hscan
    exact .inr ⟨by decide, rfl, fun _ => rfl⟩
  · rename_i hslash _ _ hdollar
    cases hscan
    exact .inr ⟨hslash, rfl, fun hc => absurd hc hdollar⟩

/-- A sign outside brackets may be added. -/
theorem Fixed.sign {sign : Sign} (hreader : reader.Fixed limit)
    (hstart : reader.cursor.rest = c :: rest) (hopens : c ≠ '(') (hcloses : c ≠ ')')
    (hscan : scanSign reader.flags.spaced c reader.cursor = .ok (sign, behind)) (span : Span) :
    (reader.push behind 0 (reader.flags.node span sign)).Fixed limit ∧ behind.rest <:+ rest := by
  have hfixed := hreader.fixed
  have hwidth : ∀ read, reader.flags.node span sign = .ok read → read.width ≤ 1 :=
    fun read hread => width_node_le hread
  rw [hreader.flags] at hscan
  rcases scanSign_takes hstart hfixed hscan with ⟨rfl, htakes⟩ | ⟨hslash, rfl, hsign⟩
  · have hsuffix := htakes.suffix
    rw [hstart] at hsuffix
    have hanchor : [')', '$'] <:+ reader.cursor.rest := by
      rcases hreader.anchored with hmore | hend | ⟨hnone, -⟩
      · exact hmore
      · simp [hstart] at hend
      · simp [hstart] at hnone
    exact ⟨hreader.push hstart (by decide) hsuffix (htakes.isFixedWidth hfixed)
      (htakes.ne_nil hanchor) hwidth, hsuffix⟩
  · have hbehind : (reader.cursor.skip 1).rest = rest := rest_skip_one hstart
    refine ⟨?_, hbehind ▸ List.suffix_rfl⟩
    by_cases hdollar : c = '$'
    · subst hdollar
      rw [hsign rfl, hreader.flags]
      exact hreader.pushAnchor hstart
    · have hcounts : counts c = true := by simp [counts, hopens, hcloses, hdollar]
      rw [hstart] at hfixed
      refine hreader.push hstart hcounts (hbehind ▸ List.suffix_rfl)
        (hbehind ▸ isFixedWidth_tail hslash hfixed) ?_ hwidth
      rw [hbehind]
      rintro rfl
      rcases hreader.anchored_tail hstart hcloses hdollar ⟨[], []⟩ with
        hmore | hend | ⟨-, piece, pieces, hlast, -⟩
      · simpa using hmore.length_le
      · cases hend
      · cases hlast

/-- A class may be added. -/
theorem Fixed.pushClass {content : SizedClass} (hreader : reader.Fixed limit)
    (hstart : reader.cursor.rest = '[' :: rest)
    (hscan : scanClass reader.flags.spaced reader.cursor = .ok (content, behind)) :
    (reader.push behind content.depth ((content.item.set reader.flags).map .char)).Fixed limit ∧
      behind.rest <:+ rest := by
  rw [hreader.flags] at hscan
  have hleaves := scanClass_leaves hstart hreader.fixed hscan
  have hclosed : ']' :: behind.rest <:+ rest := by
    have hsuffix := hleaves.suffix
    rw [hstart] at hsuffix
    rcases List.suffix_cons_iff.mp hsuffix with hsame | hmore
    · exact absurd (List.cons.inj hsame).1 (by decide)
    · exact hmore
  have hsuffix : behind.rest <:+ rest := (List.suffix_cons ']' _).trans hclosed
  refine ⟨hreader.push hstart (by decide) hsuffix (isFixedWidth_tail (by decide) hleaves.fixed)
    ?_ ?_, hsuffix⟩
  · intro hnone
    rw [hnone] at hclosed
    rcases hreader.anchored_tail hstart (by decide) (by decide) ⟨[], []⟩ with
      hmore | hend | ⟨-, piece, pieces, hlast, -⟩
    · have hends := List.suffix_of_suffix_length_le hclosed hmore (by decide)
      revert hends
      decide
    · rw [hend] at hclosed
      revert hclosed
      decide
    · cases hlast
  · intro read hread
    cases hset : content.item.set reader.flags with
    | error fault =>
        rw [hset] at hread
        cases hread
    | ok set =>
        rw [hset] at hread
        cases hread
        exact le_rfl

/-- What the reader does in one step keeps it within the limit, and takes up a character. -/
theorem Fixed.step (hreader : reader.Fixed limit) (hstart : reader.cursor.rest = c :: rest)
    (hstep : reader.step c = .ok next) : next.Fixed limit ∧ next.cursor.rest <:+ rest := by
  have hfixed := hreader.fixed
  rw [hstart] at hfixed
  have hoperator := head_ne_of_isFixedWidth hfixed
  unfold Reader.step at hstep
  split at hstep
  · obtain ⟨hnext, hrest⟩ := hreader.openGroup hstart hstep
    exact ⟨hnext, hrest ▸ List.suffix_rfl⟩
  · obtain ⟨hnext, hrest⟩ := hreader.closeGroup hstart hstep
    exact ⟨hnext, hrest ▸ List.suffix_rfl⟩
  · exact absurd hoperator (by decide)
  · obtain ⟨⟨content, behind⟩, hscan, hstep⟩ := eq_ok_of_bind hstep
    cases hstep
    rw [cursor_push]
    exact hreader.pushClass hstart hscan
  · exact absurd hoperator (by decide)
  · exact absurd hoperator (by decide)
  · exact absurd hoperator (by decide)
  · exact absurd hoperator (by decide)
  · rename_i hopens hcloses _ _ _ _ _ _
    obtain ⟨⟨sign, behind⟩, hscan, hstep⟩ := eq_ok_of_bind hstep
    cases hstep
    rw [cursor_push]
    exact hreader.sign hstart hopens hcloses hscan _

/-! ### A whole text -/

/-- What is found at the end of a text ends with the anchor and is no wider than the limit. -/
theorem Fixed.result (hreader : reader.Fixed limit) (hend : reader.cursor.rest = []) {node : Node}
    (hresult : reader.result = .ok node) : node.EndsText ∧ node.width ≤ limit := by
  unfold Reader.result at hresult
  split at hresult
  · cases hresult
  · rename_i hframes
    dsimp only at hresult
    split at hresult
    · cases hresult
    · split at hresult
      · cases hresult
      · cases hresult
        constructor
        · obtain ⟨piece, pieces, hpieces, hplace⟩ : ∃ piece pieces,
              reader.level.pieces = piece :: pieces ∧ piece.node = .place .textEnd := by
            rcases hreader.anchored with hmore | hlast | ⟨-, hread⟩
            · rw [hend] at hmore
              simpa using hmore.length_le
            · simp [hend] at hlast
            · exact hread
          unfold Level.whole
          rw [hreader.branches, Level.node_sequence, hpieces, List.foldl_cons, hplace]
          exact endsText_foldl_seq pieces Node.endsText_place.seq_empty
        · have hbudget := hreader.budget
          rw [width, hframes, hend] at hbudget
          rw [Level.width_whole hreader.branches]
          simpa [room] using hbudget

/-- Reading a text of fixed width to its end stays within the limit. -/
theorem Fixed.finish (parts : Nat) (hreader : reader.Fixed limit)
    (hparts : reader.cursor.rest.length < parts) {node : Node}
    (hfinish : Reader.finish parts reader = .ok node) : node.EndsText ∧ node.width ≤ limit := by
  induction parts generalizing reader with
  | zero => omega
  | succ parts ih =>
      have hsettle : { reader with cursor := reader.cursor.settle reader.flags.spaced } =
          reader := by
        have hspaced : reader.flags.spaced = false := by rw [hreader.flags]; rfl
        rw [hspaced]
        rfl
      unfold Reader.finish at hfinish
      rw [hsettle] at hfinish
      dsimp only at hfinish
      split at hfinish
      · rename_i hend
        exact hreader.result hend hfinish
      · rename_i c rest hstart
        split at hfinish
        · cases hfinish
        · rename_i next hstep
          obtain ⟨hnext, hsuffix⟩ := hreader.step hstart hstep
          have hshorter := hsuffix.length_le
          rw [hstart, List.length_cons] at hparts
          exact ih hnext (by omega) hfinish

end Reader

/-- Behind the start of its group, the reader of an anchored text of fixed width is within the
length of the text. -/
theorem fixed_start {source : Text} (hfixed : isFixedWidth source = true) :
    Reader.Fixed source.length ((Reader.start false (Anchor.stop.frame source)).enter
      ⟨source ++ [')', '$'], 3⟩ (.initial false) []) := by
  refine ⟨rfl, ?_, rfl, ?_, isFixedWidth_anchored hfixed, ?_, .inl (List.suffix_append _ _)⟩
  · intro frame hframe
    rw [List.mem_singleton.mp hframe]
    rfl
  · intro frame hframe
    rw [List.mem_singleton.mp hframe]
    rfl
  · have hroom : room (source ++ [')', '$']) ≤ source.length := by
      rw [room, List.countP_append]
      exact room_le_length source
    show (0 + (0 + 0) : ℕ∞) + room (source ++ [')', '$']) ≤ source.length
    rw [zero_add, zero_add, zero_add]
    exact_mod_cast hroom

/-- A condition of fixed width at the end of a word matches only there, and no more characters than
it is written with. -/
theorem fixedWidth_of_read {source : Text} {node : Node} (hfixed : isFixedWidth source = true)
    (hread : Node.read false (Anchor.stop.frame source) = .ok node) :
    node.EndsText ∧ node.width ≤ source.length := by
  have hfinish := finish_of_read hread
  have hopen : Reader.finish ((Anchor.stop.frame source).length + 1)
      (.start false (Anchor.stop.frame source)) =
      Reader.finish (Anchor.stop.frame source).length
        ((Reader.start false (Anchor.stop.frame source)).enter ⟨source ++ [')', '$'], 3⟩
          (.initial false) []) := rfl
  rw [hopen] at hfinish
  refine (fixed_start hfixed).finish _ ?_ hfinish
  simp [Anchor.frame, Reader.enter]

end Orthography.Pattern
