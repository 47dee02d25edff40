import Orthography.Proofs.Pattern.Progress

/-!
# A pattern inside a group

A condition is read with a parenthesis and an anchor put around its source.  Where the source is a
pattern by itself, the parenthesis behind it closes the group that was opened in front of it: the
reader of the longer text goes the same steps as one of the source alone, with one more group open.
So the anchor stands outside of all that the source says, and every match touches the end of the
word that the anchor asks for.  Where the source closes the group itself this fails.
-/

namespace Orthography.Pattern

variable {offset : Nat} {tail : Text} {cursor behind : Cursor} {spaced : Bool} {c : Char}
  {rest : Text}

/-! ### Parts -/

/-- An operator ends at the same place in the longer pattern. -/
theorem operatorEnd_embed (htail : Closing tail) (hstart : cursor.rest = c :: rest) :
    operatorEnd (cursor.embed offset tail) = (operatorEnd cursor).embed offset tail := by
  have hone := one_le_length hstart
  have hbehind : (cursor.skip 1).rest = rest := rest_skip_one hstart
  have hlonger : ((cursor.skip 1).embed offset tail).rest = rest ++ tail := by
    rw [Cursor.embed, hbehind]
  unfold operatorEnd
  rw [skip_embed hone, hbehind, hlonger]
  rcases rest with - | ⟨d, rest⟩
  · cases htail <;> rfl
  · by_cases hd : d = '?'
    · subst hd
      exact skip_embed (by rw [hbehind, List.length_cons]; omega)
    · simp [hd]

namespace PartEnds

/-- A part that the pattern alone ends is ended at the same place in the longer pattern. -/
theorem embed (htail : Closing tail) (hstart : cursor.rest = c :: rest)
    (hends : PartEnds spaced cursor c behind) :
    PartEnds spaced (cursor.embed offset tail) c (behind.embed offset tail) := by
  have hone := one_le_length hstart
  cases hends with
  | bar => exact skip_embed hone ▸ .bar
  | bracket hscan =>
      obtain ⟨content, hcontent⟩ : ∃ content, scanClass spaced (cursor.embed offset tail) =
          .ok (content, behind.embed offset tail) := scanClass_embed htail hstart hscan
      exact .bracket hcontent
  | operator hc => exact operatorEnd_embed htail hstart ▸ .operator hc
  | counted hscan => exact .counted (scanCounted_embed htail hstart hscan)
  | sign hc hscan => exact .sign hc (scanSign_embed htail hstart hscan)

/-- A part ends at one place only. -/
theorem unique {other : Cursor} (hfirst : PartEnds spaced cursor c behind)
    (hsecond : PartEnds spaced cursor c other) : other = behind := by
  have hoperators : ['?', '*', '+'] ⊆ opening := by decide
  cases hfirst with
  | bar =>
      cases hsecond with
      | bar => rfl
      | operator hc => exact absurd hc (by decide)
      | sign hplain hother => exact absurd (by decide) hplain
  | bracket hscan =>
      cases hsecond with
      | bracket hother =>
          rw [hscan] at hother
          cases hother
          rfl
      | operator hc => exact absurd hc (by decide)
      | sign hplain hother => exact absurd (by decide) hplain
  | operator hc =>
      cases hsecond with
      | operator => rfl
      | bar => exact absurd hc (by decide)
      | bracket hother => exact absurd hc (by decide)
      | counted hother => exact absurd hc (by decide)
      | sign hplain hother => exact absurd (hoperators hc) hplain
  | counted hscan =>
      cases hsecond with
      | counted hother =>
          rw [hscan] at hother
          cases hother
          rfl
      | operator hc => exact absurd hc (by decide)
      | sign hplain hother => exact absurd (by decide) hplain
  | sign hplain hscan =>
      cases hsecond with
      | sign _ hother =>
          rw [hscan] at hother
          cases hother
          rfl
      | bar => exact absurd (by decide) hplain
      | bracket hother => exact absurd (by decide) hplain
      | operator hc => exact absurd (hoperators hc) hplain
      | counted hother => exact absurd (by decide) hplain

/-- A parenthesis is no part. -/
theorem ne_parenthesis (hends : PartEnds spaced cursor c behind) : c ≠ '(' ∧ c ≠ ')' := by
  constructor <;>
  · rintro rfl
    cases hends with
    | operator hc => exact absurd hc (by decide)
    | sign hplain hscan => exact absurd (by decide) hplain

end PartEnds

/-! ### The reader of the longer pattern -/

/-- The reader of the longer pattern stands at the same place as the reader of the pattern alone,
with the same flags, and has the same groups open inside the group around the pattern. -/
structure Reader.Within (offset : Nat) (tail : Text) (wrapper : Frame) (alone inside : Reader) :
    Prop where
  cursor : inside.cursor = alone.cursor.embed offset tail
  flags : inside.flags = alone.flags
  frames : ∃ between, inside.frames = between ++ [wrapper] ∧
    between.map (·.flags) = alone.frames.map (·.flags)

/-- Where an opening stands does not matter to the flags behind it. -/
theorem Opening.flagsFrom_moved (flags : Flags) (opening : Opening) (offset : Nat) :
    (opening.moved offset).flagsFrom flags = opening.flagsFrom flags := by
  unfold moved
  split
  · rfl
  · rfl
  · exact Flags.apply_moved flags _ offset
  · exact Flags.apply_moved flags _ offset

/-- Where an opening stands does not matter to whether it opens a group. -/
theorem Opening.isGroup_moved (opening : Opening) (offset : Nat) :
    (opening.moved offset).isGroup = opening.isGroup := by
  unfold moved
  split <;> rfl

/-- Behind a parenthesis that nothing counts behind, a group has been opened. -/
theorem scanOpening_of_nil (hnone : ((cursor.skip 1).settle spaced).rest = []) :
    scanOpening spaced cursor = .ok (.capture none, (cursor.skip 1).settle spaced) := by
  unfold scanOpening
  dsimp only
  rw [hnone]
  rfl

namespace Reader

variable {wrapper : Frame} {alone inside next later : Reader}

/-- Both readers go the same step. -/
theorem Within.step (htail : Closing tail) (hwithin : alone.Within offset tail wrapper inside)
    (hstart : alone.cursor.rest = c :: rest) (halone : alone.Steps c next)
    (hinside : inside.Steps c later) (hends : next.cursor.rest = [] → next.frames = []) :
    next.Within offset tail wrapper later := by
  obtain ⟨between, hbetween, hflags⟩ := hwithin.frames
  cases halone with
  | part hpart hnextFlags hnextFrames =>
      cases hinside with
      | part hother hlaterFlags hlaterFrames =>
          rw [hwithin.cursor, hwithin.flags] at hother
          refine ⟨(hpart.embed htail hstart).unique hother, ?_, between, ?_, ?_⟩
          · rw [hlaterFlags, hnextFlags, hwithin.flags]
          · rw [hlaterFrames, hbetween]
          · rw [hnextFrames, hflags]
      | opens hother => exact absurd rfl hpart.ne_parenthesis.1
      | closes hother => exact absurd rfl hpart.ne_parenthesis.2
  | opens hscan hnextFlags hnextFrames =>
      rename_i opening
      -- Where nothing counts behind the parenthesis, the longer pattern goes on with its closing.
      -- The pattern alone then ends with a group open, and this is what `hends` excludes.
      have hcounts : ((alone.cursor.skip 1).settle alone.flags.spaced).rest ≠ [] := by
        intro hnone
        rw [scanOpening_of_nil hnone] at hscan
        obtain ⟨rfl, hcursor⟩ := Prod.mk.inj (Except.ok.inj hscan)
        have hframes := hends (hcursor ▸ hnone)
        rw [hnextFrames] at hframes
        cases hframes
      cases hinside with
      | part hother => exact absurd rfl hother.ne_parenthesis.1
      | opens hother hlaterFlags hlaterFrames =>
          rw [hwithin.cursor, hwithin.flags, scanOpening_embed htail hstart hcounts hscan] at hother
          obtain ⟨rfl, hcursor⟩ := Prod.mk.inj (Except.ok.inj hother)
          refine ⟨hcursor.symm, ?_, ?_⟩
          · rw [hlaterFlags, hnextFlags, hwithin.flags, Opening.flagsFrom_moved]
          · rw [Opening.isGroup_moved, hbetween] at hlaterFrames
            rw [hnextFrames]
            cases hgroup : opening.isGroup with
            | false =>
                rw [hgroup] at hlaterFrames
                exact ⟨between, hlaterFrames, hflags⟩
            | true =>
                rw [hgroup] at hlaterFrames
                refine ⟨_ :: between, hlaterFrames, ?_⟩
                simp only [if_true, List.map_cons, hflags, hwithin.flags]
  | closes hcursor hnextFlags hnextFrames =>
      cases hinside with
      | part hother => exact absurd rfl hother.ne_parenthesis.2
      | closes hlaterCursor hlaterFlags hlaterFrames =>
          have hone := one_le_length hstart
          rw [hnextFrames, List.map_cons, List.map_eq_cons_iff] at hflags
          obtain ⟨first, others, rfl, hfirst, hothers⟩ := hflags
          rw [hlaterFrames, List.cons_append] at hbetween
          obtain ⟨rfl, hframes⟩ := List.cons.inj hbetween
          refine ⟨?_, ?_, others, hframes, hothers⟩
          · rw [hlaterCursor, hcursor, hwithin.cursor, skip_embed hone]
          · rw [hlaterFlags, hnextFlags, hfirst]

/-- A reader with a result has closed all groups. -/
theorem frames_eq_nil_of_result {reader : Reader} {node : Node}
    (hresult : reader.result = .ok node) : reader.frames = [] := by
  unfold result at hresult
  split at hresult
  · cases hresult
  · assumption

/-- A reader at the next character that counts. -/
def settled (reader : Reader) : Reader :=
  { reader with cursor := reader.cursor.settle reader.flags.spaced }

/-- One part of reading, from the next character that counts on. -/
theorem finish_succ (parts : Nat) (reader : Reader) :
    Reader.finish (parts + 1) reader =
      match reader.settled.cursor.rest with
      | [] => reader.settled.result
      | c :: _ =>
        match reader.settled.step c with
        | .error fault => .error fault
        | .ok next => Reader.finish parts next :=
  rfl

/-- Where nothing counts any more the result is there. -/
theorem finish_of_nil {reader : Reader} (parts : Nat) (hnone : reader.settled.cursor.rest = []) :
    Reader.finish (parts + 1) reader = reader.settled.result := by
  rw [finish_succ, hnone]

/-- Where something counts, reading that ends well goes a step on. -/
theorem exists_step_of_finish {reader : Reader} {parts : Nat} {node : Node}
    (hstart : reader.settled.cursor.rest = c :: rest)
    (hfinish : Reader.finish (parts + 1) reader = .ok node) :
    ∃ next, reader.settled.step c = .ok next ∧ Reader.finish parts next = .ok node := by
  rw [finish_succ, hstart] at hfinish
  dsimp only at hfinish
  split at hfinish
  · cases hfinish
  · rename_i next hnext
    exact ⟨next, hnext, hfinish⟩

/-- A reader that ends well at the end of its text has closed all groups. -/
theorem frames_eq_nil_of_finish {reader : Reader} {parts : Nat} {node : Node}
    (hfinish : Reader.finish parts reader = .ok node) (hnone : reader.cursor.rest = []) :
    reader.frames = [] := by
  have hsettled : reader.settled.cursor.rest = [] :=
    List.suffix_nil.mp (hnone ▸ settle_suffix reader.cursor reader.flags.spaced)
  cases parts with
  | zero => exact frames_eq_nil_of_result hfinish
  | succ parts =>
      rw [finish_of_nil parts hsettled] at hfinish
      have hframes : reader.settled.frames = [] := frames_eq_nil_of_result hfinish
      exact hframes

/-- Both readers pass over the same blanks and comments where something counts behind them. -/
theorem Within.settled (htail : Closing tail) (hwithin : alone.Within offset tail wrapper inside)
    (hsome : alone.settled.cursor.rest ≠ []) :
    alone.settled.Within offset tail wrapper inside.settled := by
  refine ⟨?_, hwithin.flags, hwithin.frames⟩
  show inside.cursor.settle inside.flags.spaced = _
  rw [hwithin.cursor, hwithin.flags]
  exact settle_embed htail hsome

/-- Where both readers come to their ends, the one of the longer pattern comes to the parenthesis
behind the pattern with no other group open than the one around it. -/
theorem Within.finish (htail : Closing tail) {parts longer : Nat} {node whole : Node}
    (hwithin : alone.Within offset tail wrapper inside) (hparts : alone.cursor.rest.length < parts)
    (hlonger : parts + tail.length ≤ longer) (halone : Reader.finish parts alone = .ok node)
    (hinside : Reader.finish longer inside = .ok whole) :
    ∃ (last next : Reader) (fewer : Nat), last.cursor.rest = tail ∧ last.frames = [wrapper] ∧
      last.step ')' = .ok next ∧ tail.length ≤ fewer ∧ Reader.finish fewer next = .ok whole := by
  induction parts generalizing alone inside longer with
  | zero => omega
  | succ parts ih =>
      obtain ⟨more, rfl⟩ : ∃ more, longer = more + 1 := ⟨longer - 1, by omega⟩
      rcases hrest : alone.settled.cursor.rest with - | ⟨c, rest⟩
      · rw [finish_of_nil parts hrest] at halone
        have hclosed := frames_eq_nil_of_result halone
        change alone.frames = [] at hclosed
        have hframes : inside.frames = [wrapper] := by
          obtain ⟨between, hbetween, hflags⟩ := hwithin.frames
          rw [hclosed, List.map_nil, List.map_eq_nil_iff] at hflags
          rw [hbetween, hflags, List.nil_append]
        have hplace : inside.settled.cursor.rest = tail ∨ inside.settled.cursor.rest = [] := by
          rw [Reader.settled, hwithin.cursor, hwithin.flags]
          exact settle_embed_of_nil htail hrest
        rcases hplace with htext | hnone
        · obtain ⟨others, hothers⟩ := htail.eq_cons
          obtain ⟨next, hnext, hfinish⟩ :=
            exists_step_of_finish (htext.trans hothers) hinside
          exact ⟨inside.settled, next, more, htext, hframes, hnext, by omega, hfinish⟩
        · -- A comment hides the closing, and the group around the pattern stays open.
          rw [finish_of_nil more hnone] at hinside
          have hopen : inside.settled.frames = [] := frames_eq_nil_of_result hinside
          exact absurd (hframes.symm.trans hopen) (List.cons_ne_nil _ _)
      · have hsome : alone.settled.cursor.rest ≠ [] := by
          rw [hrest]
          exact List.cons_ne_nil _ _
        have hsettled := hwithin.settled htail hsome
        have hsettledRest : inside.settled.cursor.rest = c :: (rest ++ tail) := by
          rw [hsettled.cursor, Cursor.embed, hrest, List.cons_append]
        obtain ⟨next, hnext, halone⟩ := exists_step_of_finish hrest halone
        obtain ⟨later, hlater, hinside⟩ := exists_step_of_finish hsettledRest hinside
        have hbeside := hsettled.step htail hrest (steps_of_step hnext) (steps_of_step hlater)
          fun hnone => frames_eq_nil_of_finish halone hnone
        have hshorter : next.cursor.rest.length < alone.cursor.rest.length := by
          have hless := (steps_of_step hnext).suffix.length_le
          have hpassed := (settle_suffix alone.cursor alone.flags.spaced).length_le
          rw [rest_skip_one hrest] at hless
          have hmore : alone.settled.cursor.rest.length = rest.length + 1 := by
            rw [hrest, List.length_cons]
          simp only [Reader.settled] at hmore
          omega
        exact ih hbeside (by omega) (by omega) halone hinside

/-- A reader with a result has found all that is on its level. -/
theorem eq_whole_of_result {reader : Reader} {node : Node} (hresult : reader.result = .ok node) :
    node = reader.level.whole.node := by
  unfold result at hresult
  split at hresult
  · cases hresult
  · dsimp only at hresult
    split at hresult
    · cases hresult
    · split at hresult
      · cases hresult
      · cases hresult
        rfl

/-- The parenthesis that closes the last group leaves one piece more around it. -/
theorem exists_push_of_close {last : Reader} (hframes : last.frames = [wrapper])
    (hclose : last.step ')' = .ok next) :
    next.cursor = last.cursor.skip 1 ∧ next.flags = wrapper.flags ∧
      ∃ piece, next.level = wrapper.outer.push piece := by
  have hgroup : last.closeGroup = .ok next := hclose
  unfold closeGroup at hgroup
  rw [hframes] at hgroup
  cases hgroup
  exact ⟨rfl, rfl, _, rfl⟩

end Reader

/-! ### Anchors -/

/-- A group with a pattern in it is read to the parenthesis behind the pattern, as one piece, and
what follows is read with the flags from before the group. -/
theorem exists_finish_of_group {source : Text} {node whole : Node} {reader : Reader} {parts : Nat}
    (htail : Closing tail) (hsource : Node.read false source = .ok node)
    (hflags : reader.flags = .initial false) (hframes : reader.frames = [])
    (hstart : reader.cursor.rest = '(' :: '?' :: ':' :: (source ++ tail))
    (hparts : reader.cursor.rest.length < parts)
    (hread : Reader.finish parts reader = .ok whole) :
    ∃ (next : Reader) (fewer : Nat) (piece : Piece), next.cursor.rest = tail.tail ∧
      next.flags = .initial false ∧ next.level = reader.level.push piece ∧
      tail.tail.length < fewer ∧ Reader.finish fewer next = .ok whole := by
  have hspaced : reader.flags.spaced = false := by
    rw [hflags]
    rfl
  obtain ⟨longer, hlonger, hopened⟩ := leadsTo_enter hspaced hstart parts hparts
  have hinside : (reader.cursor.skip 3).rest = source ++ tail := by
    rw [Cursor.skip, hstart]
    rfl
  have hwithin : (Reader.start false source).Within (reader.cursor.position + 3) tail
      ⟨reader.level, reader.flags, reader.cursor.position⟩
      (reader.enter (reader.cursor.skip 3) reader.flags reader.names) := by
    refine ⟨?_, hflags, [], ?_, rfl⟩
    · rw [Cursor.embed, Reader.start, Nat.zero_add, ← hinside]
      rfl
    · rw [Reader.enter, hframes, List.nil_append]
  have henough : source.length + 1 + tail.length ≤ longer := by
    rw [Reader.enter, hinside, List.length_append] at hlonger
    omega
  obtain ⟨last, next, fewer, hrest, hlast, hclose, hfewer, hfinish⟩ :=
    hwithin.finish htail (Nat.lt_succ_self _) henough (finish_of_read hsource)
      (hopened.symm.trans hread)
  obtain ⟨hbehind, hnextFlags, piece, hlevel⟩ := Reader.exists_push_of_close hlast hclose
  obtain ⟨others, rfl⟩ := htail.eq_cons
  refine ⟨next, fewer, piece, ?_, hnextFlags.trans hflags, hlevel, ?_, hfinish⟩
  · rw [hbehind]
    exact rest_skip_one hrest
  · rw [List.length_cons] at hfewer
    exact hfewer

/-- A condition at the end of a word whose source is a pattern by itself matches only there. -/
theorem endsText_of_read {source : Text} {node whole : Node}
    (hsource : Node.read false source = .ok node)
    (hread : Node.read false (Anchor.stop.frame source) = .ok whole) : whole.EndsText := by
  obtain ⟨next, fewer, piece, hrest, hflags, hlevel, hfewer, hfinish⟩ :=
    exists_finish_of_group .anchored hsource rfl rfl rfl (Nat.lt_succ_self _)
      (finish_of_read hread)
  obtain ⟨least, -, hlast⟩ := reads_textEnd next hflags hlevel hrest fewer (hrest ▸ hfewer)
  have hnone : (next.cursor.skip 1).rest = [] := rest_skip_one hrest
  have hspaced : next.flags.spaced = false := by
    rw [hflags]
    rfl
  rw [hlast, Reader.finish_of_rest_eq_nil (by exact hspaced) (by exact hnone)] at hfinish
  rw [Reader.eq_whole_of_result hfinish]
  exact Node.endsText_place.seq_empty.seq piece.node

/-- A condition at the start of a word whose source is a pattern by itself matches only there. -/
theorem startsText_of_read {source : Text} {node whole : Node}
    (hsource : Node.read false source = .ok node)
    (hread : Node.read false (Anchor.start.frame source) = .ok whole) : whole.StartsText := by
  have hstart : (Reader.start false (Anchor.start.frame source)).cursor.rest =
      ['^'] ++ '(' :: '?' :: ':' :: (source ++ [')']) := rfl
  obtain ⟨parts, hparts, hanchored⟩ := reads_textStart _ rfl rfl hstart _ (Nat.lt_succ_self _)
  have hgroup := hanchored.symm.trans (finish_of_read hread)
  obtain ⟨next, fewer, piece, hrest, hflags, hlevel, -, hfinish⟩ :=
    exists_finish_of_group .group hsource rfl rfl rfl hparts hgroup
  have hspaced : next.flags.spaced = false := by
    rw [hflags]
    rfl
  rw [Reader.finish_of_rest_eq_nil hspaced hrest] at hfinish
  rw [Reader.eq_whole_of_result hfinish, hlevel]
  exact Node.startsText_place.seq _

end Orthography.Pattern
