import Orthography.Proofs.Affix.Anchoring
import Orthography.Proofs.Pattern.Spelling

/-!
# Conditions that ask for a text

An escaped text is read as the sequence of its characters, whatever characters these are, and spells
that text alone.  So the condition that is made of it can always be read, holds of the words that
have the text at the anchored end, and takes away that text there (`Condition.exists_literal`).

A removal at the end of a stem is a text where its column is refused as a pattern.  It is asked in
its frame, though, and there a column can close the group around it and open another: such a column
is taken for a pattern and does not take away the text that it is written as.
-/

namespace Orthography

namespace Pattern

variable {language : Language Char} {body node : Node} {text word : Text} {start stop : Nat}

/-! ### Words as they are -/

/-- The language of one word. -/
def alone (word : Text) : Language Char := {other | other = word}

theorem mem_alone {word other : Text} : other ∈ alone word ↔ other = word := Iff.rfl

theorem alone_nil : alone [] = 1 := rfl

/-- A word is put together from its first character and the rest. -/
theorem alone_cons (c : Char) (word : Text) : alone (c :: word) = alone [c] * alone word := by
  ext other
  simp [Language.mem_mul, mem_alone, eq_comm]

/-- A character that is read with regard to case spells itself. -/
theorem spells_exactPiece (c : Char) : (literalPiece false c).node.Spells (alone [c]) := by
  have hset : {word | ∃ d, (CharSet.chars [c]).contains d = true ∧ word = [d]} = alone [c] := by
    ext word
    change (∃ d, (CharSet.chars [c]).contains d = true ∧ word = [d]) ↔ word = [c]
    simp [CharSet.contains]
  exact hset ▸ Node.spells_char (.chars [c])

/-- The group of the characters of a text. -/
def literalGroup (text : Text) : Piece :=
  let inner := (Level.start.spell false text).whole
  ⟨inner.node, 1 + inner.depth, true⟩

/-- The group of the characters of a text spells that text, and does not nest deep. -/
theorem spells_literalGroup (text : Text) :
    (literalGroup text).node.Spells (alone text) ∧ (literalGroup text).depth ≤ 3 := by
  obtain ⟨hspells, hdepth⟩ :=
    ((Level.means_start 0).spell_of alone_nil alone_cons spells_exactPiece text).whole
  rw [one_mul, zero_add] at hspells
  refine ⟨hspells, ?_⟩
  change 1 + (Level.start.spell false text).whole.depth ≤ 3
  omega

/-- A text that is escaped and put into parentheses is read as the group of its characters. -/
theorem reads_literalGroup (text rest : Text) (level : Level) :
    Reads false ("(?:".toList ++ escape text ++ [')']) rest level
      (level.push (literalGroup text)) := reads_group (reads_escape text)

/-- Two pieces of which neither nests deep are read as their sequence. -/
theorem read_of_reads_pair {pattern : Text} {first second : Piece}
    (hreads : Reads false pattern [] .start ((Level.start.push first).push second))
    (hdepth : first.depth ≤ 3 ∧ second.depth ≤ 3) :
    Node.read false pattern = .ok (.seq first.node (.seq second.node .empty)) := by
  have hgreatest : greatestDepth [second, first] ≤ 3 :=
    greatestDepth_le (by simpa using hdepth.symm)
  refine read_of_reads hreads ?_
  change 1 + greatestDepth [second, first] ≤ 250
  omega

/-! ### At one end of a word -/

namespace Node

/-- At the end of a word, a pattern that spells a language matches what is in the language. -/
theorem Spells.mem_ends_textEnd_iff (hbody : body.Spells language) (hstart : start ≤ word.length) :
    stop ∈ (Node.seq body (.seq (place .textEnd) empty)).ends word.toArray start ↔
      word.drop start ∈ language ∧ stop = word.length := by
  simp only [ends, Place.holds, List.mem_eraseDups, List.mem_flatMap, List.size_toArray,
    List.mem_ite_nil_right, List.mem_singleton, beq_iff_eq, hbody.mem_ends_iff word start _ hstart]
  constructor
  · rintro ⟨_, ⟨spelt, hspelt, hstands, rfl⟩, _, ⟨hend, rfl⟩, rfl⟩
    have hwhole : spelt = word.drop start := by
      refine hstands.eq_of_length ?_
      rw [List.length_drop]
      omega
    exact ⟨hwhole ▸ hspelt, hend⟩
  · rintro ⟨hspelt, rfl⟩
    have hend : start + (word.drop start).length = word.length := by
      rw [List.length_drop]
      omega
    exact ⟨word.length, ⟨_, hspelt, List.prefix_rfl, hend.symm⟩, word.length, ⟨rfl, rfl⟩, rfl⟩

/-- At the start of a word, a pattern that spells a language matches what is in the language. -/
theorem Spells.mem_ends_textStart_iff (hbody : body.Spells language)
    (hstart : start ≤ word.length) :
    stop ∈ (Node.seq (place .textStart) (.seq body empty)).ends word.toArray start ↔
      start = 0 ∧ ∃ spelt ∈ language, spelt <+: word ∧ stop = spelt.length := by
  simp only [ends, Place.holds, List.mem_eraseDups, List.mem_flatMap, List.mem_ite_nil_right,
    List.mem_singleton, beq_iff_eq]
  constructor
  · rintro ⟨_, ⟨rfl, rfl⟩, _, hbehind, rfl⟩
    simpa [hbody.mem_ends_iff word 0 _ (Nat.zero_le _)] using hbehind
  · rintro ⟨rfl, hspelt⟩
    exact ⟨0, ⟨rfl, rfl⟩, stop, by simpa [hbody.mem_ends_iff word 0 _ (Nat.zero_le _)] using hspelt,
      rfl⟩

/-- The first start from which a pattern matches is one of those that were tried. -/
theorem mem_of_findFrom? {text : Array Char} {starts : List Nat}
    (hfound : node.findFrom? text starts = some (start, stop)) : start ∈ starts := by
  induction starts with
  | nil => simp [findFrom?] at hfound
  | cons other starts ih =>
      unfold findFrom? at hfound
      split at hfound
      · cases hfound
        exact List.mem_cons_self
      · exact List.mem_cons_of_mem _ (ih hfound)

/-- A pattern that matches nowhere takes nothing away; one that matches takes a match away. -/
theorem strip_cases (node : Node) (word : Text) :
    (node.isMatch word = false ∧ node.strip word = word) ∨
      ∃ start ≤ word.length, ∃ stop ∈ node.ends word.toArray start,
        node.isMatch word = true ∧ node.strip word = word.take start ++ word.drop stop := by
  unfold isMatch strip
  cases hfound : node.find? word with
  | none => exact .inl ⟨rfl, rfl⟩
  | some found =>
      obtain ⟨start, stop⟩ := found
      have hstart := List.mem_range.mp (mem_of_findFrom? hfound)
      exact .inr ⟨start, by omega, stop, mem_ends_of_findFrom? hfound, rfl, rfl⟩

end Node

end Pattern

open Pattern

/-! ### Conditions -/

namespace Anchor

variable {text word : Text} {anchor : Anchor} {start stop : Nat}

/-- Whether a text stands at the end of a word that an anchor stands for. -/
def Bears (text word : Text) : Anchor → Prop
  | .start => text <+: word
  | .stop => text <:+ word

/-- The word that has a text at the end that an anchor stands for, and the rest at the other. -/
def join (text rest : Text) : Anchor → Text
  | .start => text ++ rest
  | .stop => rest ++ text

/-- The rest of a word is determined by the word and the text at one end of it. -/
theorem join_injective {text rest other : Text} {anchor : Anchor}
    (heq : anchor.join text rest = anchor.join text other) : rest = other := by
  cases anchor with
  | start => exact List.append_cancel_left heq
  | stop => exact List.append_cancel_right heq

/-- A word that has a text at one end has something at the other. -/
theorem bears_iff : anchor.Bears text word ↔ ∃ rest, anchor.join text rest = word := by
  cases anchor <;> exact Iff.rfl

/-- What an escaped text is read as, at the end that an anchor stands for. -/
def literalNode (text : Text) : Anchor → Node
  | .start => .seq (.place .textStart) (.seq (literalGroup text).node .empty)
  | .stop => .seq (literalGroup text).node (.seq (.place .textEnd) .empty)

/-- An escaped text is read in its frame, whatever the text is. -/
theorem read_frame_escape (text : Text) (anchor : Anchor) :
    Node.read false (anchor.frame (escape text)) = .ok (anchor.literalNode text) := by
  have hdepth := (spells_literalGroup text).2
  cases anchor with
  | start =>
      have hframe : Anchor.start.frame (escape text) =
          ['^'] ++ ("(?:".toList ++ escape text ++ [')']) := rfl
      rw [hframe]
      exact read_of_reads_pair (reads_textStart.append (reads_literalGroup text [] _))
        ⟨Nat.zero_le _, hdepth⟩
  | stop =>
      have hframe : Anchor.stop.frame (escape text) =
          "(?:".toList ++ escape text ++ [')'] ++ ['$'] := by
        simp [frame]
      rw [hframe]
      exact read_of_reads_pair ((reads_literalGroup text ['$'] _).append reads_textEnd)
        ⟨hdepth, Nat.zero_le _⟩

/-- What a match of an escaped text leaves is the rest of the word at the other end. -/
theorem join_of_mem_ends (hstart : start ≤ word.length)
    (hstop : stop ∈ (anchor.literalNode text).ends word.toArray start) :
    anchor.join text (word.take start ++ word.drop stop) = word := by
  have hspells := (spells_literalGroup text).1
  cases anchor with
  | start =>
      obtain ⟨rfl, spelt, rfl, ⟨rest, rfl⟩, rfl⟩ :=
        (hspells.mem_ends_textStart_iff hstart).mp hstop
      rw [join, List.take_zero, List.nil_append, List.drop_left]
  | stop =>
      obtain ⟨hspelt, rfl⟩ := (hspells.mem_ends_textEnd_iff hstart).mp hstop
      rw [mem_alone] at hspelt
      rw [join, List.drop_length, List.append_nil, ← hspelt, List.take_append_drop]

/-- An escaped text matches in every word that has it at the anchored end. -/
theorem exists_mem_ends (hbears : anchor.Bears text word) :
    ∃ start ≤ word.length, ∃ stop, stop ∈ (anchor.literalNode text).ends word.toArray start := by
  have hspells := (spells_literalGroup text).1
  cases anchor with
  | start =>
      exact ⟨0, Nat.zero_le _, text.length,
        (hspells.mem_ends_textStart_iff (Nat.zero_le _)).mpr ⟨rfl, text, rfl, hbears, rfl⟩⟩
  | stop =>
      obtain ⟨rest, rfl⟩ := hbears
      have hstart : rest.length ≤ (rest ++ text).length := by simp
      exact ⟨rest.length, hstart, _,
        (hspells.mem_ends_textEnd_iff hstart).mpr ⟨List.drop_left, rfl⟩⟩

/-- An escaped text matches exactly the words that have it at the anchored end. -/
theorem isMatch_literalNode_iff :
    (anchor.literalNode text).isMatch word = true ↔ anchor.Bears text word := by
  rw [Node.isMatch_iff]
  constructor
  · rintro ⟨start, hstart, stop, hstop⟩
    exact bears_iff.mpr ⟨_, join_of_mem_ends hstart hstop⟩
  · exact exists_mem_ends

/-- An escaped text is taken away at the anchored end. -/
theorem strip_literalNode_join (text rest : Text) (anchor : Anchor) :
    (anchor.literalNode text).strip (anchor.join text rest) = rest := by
  have hbears : anchor.Bears text (anchor.join text rest) := bears_iff.mpr ⟨rest, rfl⟩
  rcases (anchor.literalNode text).strip_cases (anchor.join text rest) with
    ⟨hmatch, -⟩ | ⟨start, hstart, stop, hstop, -, hstrip⟩
  · rw [isMatch_literalNode_iff.mpr hbears] at hmatch
    cases hmatch
  · rw [hstrip]
    exact join_injective (join_of_mem_ends hstart hstop)

/-- Nothing is taken away from a word that does not have the text at the anchored end. -/
theorem strip_literalNode_of_not_bears (hbears : ¬anchor.Bears text word) :
    (anchor.literalNode text).strip word = word := by
  rcases (anchor.literalNode text).strip_cases word with ⟨-, hstrip⟩ | ⟨-, -, -, -, hmatch, -⟩
  · exact hstrip
  · exact absurd (isMatch_literalNode_iff.mp hmatch) hbears

end Anchor

/-- A condition asks for a text: it holds of the words that have the text at the anchored end, and
takes away the text there and nothing else. -/
structure Condition.AsksFor (anchor : Anchor) (text : Text) (condition : Condition) : Prop where
  isMatch_iff : ∀ word, condition.isMatch word = true ↔ anchor.Bears text word
  strip_join : ∀ rest, condition.strip (anchor.join text rest) = rest
  strip_eq_self : ∀ word, ¬anchor.Bears text word → condition.strip word = word

/-- A removal takes away a text at the end of a stem and nothing else. -/
structure Removal.TakesAway (text : Text) (removal : Removal) : Prop where
  apply_append : ∀ rest, removal.apply (rest ++ text) = rest
  apply_eq_self : ∀ stem, ¬text <:+ stem → removal.apply stem = stem

namespace Condition

/-- The condition that is made of a text can be read and asks for that text. -/
theorem asksFor_of_literal (text : Text) (anchor : Anchor) :
    ∃ condition, literal text anchor = .ok condition ∧ condition.AsksFor anchor text := by
  let condition : Condition :=
    ⟨escape text, anchor, anchor.literalNode text, anchor.read_frame_escape text⟩
  exact ⟨condition, condition.ofSource_source, {
    isMatch_iff := fun word => Anchor.isMatch_literalNode_iff
    strip_join := fun rest => anchor.strip_literalNode_join text rest
    strip_eq_self := fun word => Anchor.strip_literalNode_of_not_bears }⟩

/-- A removal by a condition at the end that asks for a text takes away that text. -/
theorem AsksFor.takesAway {condition : Condition} {text : Text}
    (hasks : condition.AsksFor .stop text) : (Removal.trailing condition).TakesAway text where
  apply_append := hasks.strip_join
  apply_eq_self := hasks.strip_eq_self

/-- A source that is refused in its frame makes no condition. -/
theorem ofSource_of_refused {source : Text} {anchor : Anchor} {refusal : Refusal}
    (hrefused : Node.read false (anchor.frame source) = .error refusal) :
    ofSource source anchor = .error refusal := by
  unfold ofSource
  split
  · rename_i node hread
    cases hread.symm.trans hrefused
  · rename_i other hread
    cases hread.symm.trans hrefused
    rfl

/-- The column that stands for no removal is a pattern. -/
theorem ofSource_nothing_ne_error (refusal : Refusal) :
    ofSource Statement.nothing .stop ≠ .error refusal := by
  obtain ⟨condition, hliteral, -⟩ := asksFor_of_literal Statement.nothing .stop
  have hsource : ofSource Statement.nothing .stop = .ok condition := hliteral
  rw [hsource]
  exact nofun

/-- The condition that is made of any text can be read and asks for that text at either end.  A
removal at the end of a stem that is refused as a pattern takes away the text that it is written
as. -/
theorem exists_literal (text : Text) :
    (∀ anchor, ∃ condition, literal text anchor = .ok condition ∧
      condition.AsksFor anchor text) ∧
    ∀ refusal, ofSource text .stop = .error refusal →
      ∃ removal, Statement.readRemoval .trailing text = .ok (some removal) ∧
        removal.TakesAway text := by
  refine ⟨asksFor_of_literal text, fun refusal hrefused => ?_⟩
  obtain ⟨condition, hliteral, hasks⟩ := asksFor_of_literal text .stop
  have hsome : text ≠ Statement.nothing := by
    rintro rfl
    exact ofSource_nothing_ne_error refusal hrefused
  refine ⟨.trailing condition, ?_, hasks.takesAway⟩
  simp only [Statement.readRemoval, if_neg hsome, hrefused, hliteral]

/-- A bracket that opens a class and does not close it is refused as a pattern, and taken away. -/
theorem exists_literal_unclosed_class :
    (∃ refusal, ofSource "[".toList .stop = .error refusal) ∧
    (∃ condition, literal "[".toList .start = .ok condition ∧
      condition.AsksFor .start "[".toList) ∧
    ∃ removal, Statement.readRemoval .trailing "[".toList = .ok (some removal) ∧
      removal.apply "walk[".toList = "walk".toList ∧
      removal.apply "[walk".toList = "[walk".toList := by
  let refusal : Refusal := ⟨"(?:[)$".toList, .at .classUnclosed 3 4⟩
  have hread : Node.read false (Anchor.stop.frame "[".toList) = .error refusal := by
    decide +kernel
  have hrefused := ofSource_of_refused hread
  obtain ⟨hliteral, hremoval⟩ := exists_literal "[".toList
  obtain ⟨removal, hcolumn, htakes⟩ := hremoval refusal hrefused
  exact ⟨⟨refusal, hrefused⟩, hliteral .start, removal, hcolumn,
    htakes.apply_append "walk".toList, htakes.apply_eq_self "[walk".toList (by decide)⟩

/-- A removal that closes the group around it and opens another is no pattern, but is one in its
frame, so that the text that it is written as is not taken away. -/
theorem not_takesAway_of_closed_group :
    ∃ refusal removal, Node.read false ")(".toList = .error refusal ∧
      Statement.readRemoval .trailing ")(".toList = .ok (some removal) ∧
      removal.apply "walk)(".toList = "walk)(".toList ∧ ¬removal.TakesAway ")(".toList := by
  let refusal : Refusal := ⟨")(".toList, .at .groupUnopened 0 1⟩
  let whole := (Node.read false (Anchor.stop.frame ")(".toList)).toOption.getD .empty
  have hsource : Node.read false ")(".toList = .error refusal := by decide +kernel
  have hread : Node.read false (Anchor.stop.frame ")(".toList) = .ok whole := by decide +kernel
  let condition : Condition := ⟨")(".toList, .stop, whole, hread⟩
  have hcolumn : Statement.readRemoval .trailing ")(".toList =
      .ok (some (.trailing condition)) := by
    have hcondition : ofSource ")(".toList .stop = .ok condition := condition.ofSource_source
    have hsome : ")(".toList ≠ Statement.nothing := by decide
    simp only [Statement.readRemoval, if_neg hsome, hcondition]
  have hkeeps : whole.strip "walk)(".toList = "walk)(".toList := by decide +kernel
  refine ⟨refusal, .trailing condition, hsource, hcolumn, hkeeps, fun htakes => ?_⟩
  have hloses : whole.strip "walk)(".toList = "walk".toList :=
    htakes.apply_append "walk".toList
  rw [hkeeps] at hloses
  exact absurd hloses (by decide)

end Condition

end Orthography
