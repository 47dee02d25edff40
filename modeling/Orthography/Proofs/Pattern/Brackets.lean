import Mathlib.Data.List.Infix
import Orthography.Pattern.ClassScan

/-!
# What a bracket consists of

A class in brackets starts with what its opening bracket takes up, and goes on with characters,
ranges, classes between colons, further brackets and operators.  Each is said as a relation beside
the scanner that looks for it, without the faults, which come of what is missing.
-/

namespace Orthography.Pattern

/-- What comes of two steps is what the second makes of the first. -/
theorem eq_ok_of_bind {ε α β : Type} {first : Except ε α} {next : α → Except ε β} {result : β}
    (hbind : (first >>= next) = .ok result) :
    ∃ middle, first = .ok middle ∧ next middle = .ok result := by
  cases first with
  | error fault => cases hbind
  | ok middle => exact ⟨middle, rfl, hbind⟩

/-! ### The start of a bracket -/

/-- The characters of a bracket behind its caret, if it starts with one. -/
def behindCaret (inside : List (Char × Nat)) : List (Char × Nat) :=
  if (inside.head?.map (·.1)) == some '^' then inside.drop 1 else inside

/-- What the start of a bracket lists, and the position of the character behind it: minus signs, or
a closing bracket that comes first and stands for itself. -/
inductive BracketStart (body : List (Char × Nat)) : List SizedClass → Nat → Prop
  | closing {position next : Nat} {e : Char} {after : List (Char × Nat)}
      (hhyphens : scanHyphens body [] = ([], (']', position) :: (e, next) :: after)) :
      BracketStart body [⟨.literal ']' false ⟨position, position + 1⟩, 0⟩] next
  | hyphens {items : List SizedClass} {c : Char} {next : Nat} {after : List (Char × Nat)}
      (hhyphens : scanHyphens body [] = (items, (c, next) :: after))
      (hplain : items = [] → c ≠ ']') : BracketStart body items next

/-- Every minus sign at the start of a bracket is an item of it. -/
theorem scanHyphens_length (chars : List (Char × Nat)) (items : List SizedClass) :
    (scanHyphens chars items).1.length + (scanHyphens chars items).2.length =
      items.length + chars.length := by
  fun_induction scanHyphens chars items with
  | case1 position rest items ih =>
      rw [ih, List.length_cons, List.length_cons]
      omega
  | case2 chars items hhyphen => rfl

/-- A bracket is opened exactly if there is something behind its start. -/
theorem openClass_eq_ok_iff {spaced : Bool} {outer level : ClassLevel} {frame : ClassFrame}
    {cursor behind : Cursor} :
    openClass spaced outer cursor = .ok (behind, level, frame) ↔
      ∃ items next, BracketStart (behindCaret ((cursor.skip 1).counting spaced)) items next ∧
        behind = cursor.moveTo next ∧ level = ⟨items, none⟩ ∧
        frame = ⟨(((cursor.skip 1).counting spaced).head?.map (·.1)) == some '^',
          ⟨cursor.position, next⟩, outer⟩ := by
  unfold openClass
  dsimp only
  rw [← behindCaret]
  generalize behindCaret ((cursor.skip 1).counting spaced) = body
  constructor
  · intro hopen
    split at hopen
    · cases hopen
    · rename_i hsome
      have hlength := scanHyphens_length body []
      generalize hhyphens : scanHyphens body [] = hyphens at hopen hlength
      obtain ⟨items, chars⟩ := hyphens
      dsimp only at hopen
      split at hopen
      · cases hopen
      · split at hopen
        · cases hopen
        · cases hopen
          exact ⟨_, _, .closing hhyphens, rfl, rfl, rfl⟩
      · rename_i hend hbracket
        obtain - | ⟨⟨c, next⟩, after⟩ := chars
        · cases items with
          | nil => exact absurd (List.length_eq_zero_iff.mp (by simpa using hlength.symm)) (by simpa using hsome)
          | cons item items => exact absurd rfl (hend item items rfl)
        · cases hopen
          refine ⟨_, _, .hyphens hhyphens ?_, rfl, rfl, rfl⟩
          rintro rfl rfl
          exact hbracket next after rfl rfl
  · rintro ⟨items, next, hstart, rfl, rfl, rfl⟩
    have hsome : body.isEmpty = false := by
      cases body with
      | nil => rcases hstart with hhyphens | hhyphens <;> cases hhyphens
      | cons first others => rfl
    rw [if_neg (by rw [hsome]; decide)]
    cases hstart with
    | closing hhyphens =>
        rw [hhyphens]
        rfl
    | hyphens hhyphens hplain =>
        rw [hhyphens]
        dsimp only
        split
        · rename_i hnone
          cases hnone
        · rename_i hbracket
          cases hbracket
          exact absurd rfl (hplain rfl)
        · rfl

/-! ### Classes between colons -/

/-- The names of named classes are written in small letters. -/
theorem isLower_of_ofName? {name : Text} {sort : NamedClass}
    (hname : NamedClass.ofName? name = some sort) : ∀ c ∈ name, c.isLower = true := by
  have hlist {known : String} (hknown : name.string = known) : name = known.toList := by
    rw [← hknown, Text.string, String.toList_ofList]
  unfold NamedClass.ofName? at hname
  split at hname
  all_goals first
    | cases hname; done
    | rename_i hknown
      rw [hlist hknown]
      exact List.all_eq_true.mp (by decide)

/-- The signs in front of the name of a named class. -/
def namedSigns (negated : Bool) : Text := '[' :: ':' :: if negated then ['^'] else []

/-- A named class as it is written. -/
def namedText (negated : Bool) (name : Text) : Text := namedSigns negated ++ name ++ [':', ']']

section Named

variable {name : Text} {sort : NamedClass} (hname : NamedClass.ofName? name = some sort)
include hname

/-- A character that is no small letter stands in a named class only as one of its signs. -/
theorem not_mem_namedText {c : Char} (negated : Bool) (hlower : c.isLower = false)
    (hc : c ∉ ['[', ':', '^', ']']) : c ∉ namedText negated name := by
  have hplain : c ∉ name := by
    intro hmember
    rw [isLower_of_ofName? hname c hmember] at hlower
    cases hlower
  simp only [List.mem_cons, List.not_mem_nil, or_false, not_or] at hc
  cases negated <;> simp [namedText, namedSigns, hplain, hc]

/-- A name ends at its colon. -/
theorem takeWhile_name (more : Text) : (name ++ ':' :: more).takeWhile (· != ':') = name := by
  rw [List.takeWhile_append_of_pos]
  · exact List.append_nil name
  · intro c hc
    rw [bne_iff_ne]
    rintro rfl
    cases isLower_of_ofName? hname _ hc

/-- A name does not start with a caret. -/
theorem head?_name (more : Text) : (name ++ ':' :: more).head? ≠ some '^' := by
  cases name with
  | nil => simp
  | cons c name =>
      intro hcaret
      have hlower := isLower_of_ofName? hname c List.mem_cons_self
      rw [Option.some.inj hcaret] at hlower
      cases hlower

end Named

/-- How many signs stand in front of the name of a named class. -/
theorem length_namedSigns (negated : Bool) :
    (namedSigns negated).length = 2 + if negated then 1 else 0 := by
  cases negated <;> rfl

/-- The signs of a named class are in front of what is behind the caret. -/
theorem namedSigns_append (rest : Text) :
    namedSigns (rest.head? == some '^') ++ (if rest.head? == some '^' then rest.drop 1 else rest) =
      '[' :: ':' :: rest := by
  by_cases hcaret : rest.head? = some '^'
  · obtain ⟨others, rfl⟩ := List.head?_eq_some_iff.mp hcaret
    rfl
  · rw [beq_eq_false_iff_ne.mpr hcaret]
    rfl

/-- A class between colons is read exactly if the text starts with one that has a name. -/
theorem scanNamed?_eq_some_iff {cursor behind : Cursor} {item : SizedClass} :
    scanNamed? cursor = some (item, behind) ↔
      ∃ negated name sort, NamedClass.ofName? name = some sort ∧
        namedText negated name <+: cursor.rest ∧
        behind = cursor.skip (namedText negated name).length ∧
        item = ⟨.named sort negated ⟨cursor.position, behind.position⟩, 0⟩ := by
  have hlength (negated : Bool) (name : Text) : (namedText negated name).length =
      2 + (if negated then 1 else 0) + name.length + 2 := by
    rw [namedText, List.length_append, List.length_append, length_namedSigns]
    rfl
  constructor
  · intro hscan
    unfold scanNamed? at hscan
    split at hscan
    · rename_i rest hstart
      have hsigns := namedSigns_append rest
      dsimp only at hscan
      generalize (rest.head? == some '^') = negated at hscan hsigns
      generalize (if negated = true then rest.drop 1 else rest) = body at hscan hsigns
      generalize hname : body.takeWhile (· != ':') = name at hscan
      obtain ⟨ends, rfl⟩ : name <+: body := hname ▸ List.takeWhile_prefix _
      rw [← hsigns, ← List.append_assoc] at hstart
      split at hscan
      · rename_i more sort hends hsort
        cases hscan
        rw [hstart, List.drop_left' (by rw [List.length_append, length_namedSigns])] at hends
        refine ⟨negated, name, sort, hsort, ⟨more, ?_⟩, by rw [hlength], rfl⟩
        rw [hstart, hends, namedText, List.append_assoc _ [':', ']']]
        rfl
      · cases hscan
    · cases hscan
  · rintro ⟨negated, name, sort, hname, ⟨more, hmore⟩, rfl, rfl⟩
    obtain ⟨rest, hrest⟩ : ∃ rest, (if negated then ['^'] else []) ++ (name ++ ':' :: ']' :: more) =
        rest := ⟨_, rfl⟩
    have hstart : cursor.rest = '[' :: ':' :: rest := by
      rw [← hmore, ← hrest, namedText, namedSigns]
      simp only [List.cons_append, List.nil_append, List.append_assoc]
    have hcaret : (rest.head? == some '^') = negated := by
      subst hrest
      cases negated with
      | true => rfl
      | false => exact beq_eq_false_iff_ne.mpr (head?_name hname _)
    have hbody : (if negated then rest.drop 1 else rest) = name ++ ':' :: ']' :: more := by
      subst hrest
      cases negated <;> rfl
    have hends : cursor.rest.drop (2 + (if negated then 1 else 0) + name.length) =
        ':' :: ']' :: more := by
      rw [← hmore, namedText, List.append_assoc _ [':', ']'],
        List.drop_left' (by rw [List.length_append, length_namedSigns])]
      rfl
    unfold scanNamed?
    rw [hlength]
    split
    · rename_i others hothers
      obtain rfl := List.tail_eq_of_cons_eq (List.tail_eq_of_cons_eq (hstart.symm.trans hothers))
      simp only [hcaret, hbody, takeWhile_name hname, hends, hname]
      rfl
    · rename_i hnone
      exact absurd hstart (hnone _)

/-! ### Characters and ranges -/

/-- A character or an escape inside a bracket, or a range between two characters. -/
inductive Ranges (spaced : Bool) (c : Char) (cursor : Cursor) : SizedClass → Cursor → Prop
  | single {low : Sign} {behind : Cursor} {item : ClassItem}
      (hlow : scanClassSign spaced c cursor = .ok (low, behind))
      (hsome : (behind.settle spaced).rest ≠ [])
      (hsingle : (behind.settle spaced).rest.head? ≠ some '-' ∨
        peekBehind spaced (behind.settle spaced) ∈ [some ']', some '-'])
      (hitem : classItemOf low ⟨cursor.position, behind.position⟩ = .ok item) :
      Ranges spaced c cursor ⟨item, 0⟩ (behind.settle spaced)
  | range {l h d : Char} {lowByte highByte : Bool} {others : Text} {behind upper last : Cursor}
      (hlow : scanClassSign spaced c cursor = .ok (.literal l lowByte, behind))
      (hhyphen : (behind.settle spaced).rest.head? = some '-')
      (hpeek : peekBehind spaced (behind.settle spaced) ∉ [some ']', some '-'])
      (hupper : ((behind.settle spaced).skip 1).settle spaced = upper)
      (hrest : upper.rest = d :: others)
      (hhigh : scanClassSign spaced d upper = .ok (.literal h highByte, last))
      (horder : ¬ h < l) :
      Ranges spaced c cursor ⟨.range l h lowByte highByte ⟨cursor.position, behind.position⟩
        ⟨upper.position, last.position⟩, 0⟩ last

/-- Characters and ranges are read exactly where there are some. -/
theorem scanRange_eq_ok_iff {spaced : Bool} {unclosed : Fault} {c : Char} {item : SizedClass}
    {cursor behind : Cursor} :
    scanRange spaced unclosed c cursor = .ok (item, behind) ↔
      Ranges spaced c cursor item behind := by
  constructor
  · intro hscan
    unfold scanRange at hscan
    obtain ⟨⟨low, next⟩, hlow, hscan⟩ := eq_ok_of_bind hscan
    dsimp only at hscan
    split at hscan
    · cases hscan
    · rename_i hsome
      split at hscan
      · rename_i hsingle
        obtain ⟨first, hfirst, hscan⟩ := eq_ok_of_bind hscan
        cases hscan
        exact .single hlow (by simpa using hsome) (by simpa [or_assoc] using hsingle) hfirst
      · rename_i hhyphen
        simp only [Bool.or_eq_true, not_or, bne_iff_ne, ne_eq, not_not, beq_iff_eq] at hhyphen
        obtain ⟨⟨hhyphen, hbracket⟩, hminus⟩ := hhyphen
        split at hscan
        · cases hscan
        · rename_i d others hrest
          obtain ⟨⟨high, last⟩, hhigh, hscan⟩ := eq_ok_of_bind hscan
          dsimp only at hscan
          split at hscan
          · split at hscan
            · cases hscan
            · rename_i horder
              cases hscan
              exact .range hlow hhyphen (by simp [hbracket, hminus]) rfl hrest hhigh horder
          · cases hscan
          · cases hscan
  · intro hranges
    unfold scanRange
    cases hranges with
    | single hlow hsome hsingle hitem =>
        rw [hlow]
        dsimp only [bind, Except.bind]
        rw [if_neg (by simpa using hsome), if_pos (by simpa [or_assoc] using hsingle), hitem]
        rfl
    | range hlow hhyphen hpeek hupper hrest hhigh horder =>
        simp only [List.mem_cons, List.not_mem_nil, or_false, not_or] at hpeek
        obtain ⟨others, hsettled⟩ := List.head?_eq_some_iff.mp hhyphen
        rw [hlow]
        dsimp only [bind, Except.bind]
        rw [if_neg (by simp [hsettled]), if_neg (by simp [hhyphen, hpeek]), hupper, hrest]
        dsimp only
        rw [hhigh]
        dsimp only
        rw [if_neg horder]
        rfl

/-! ### The parts of a bracket -/

/-- The character that is written twice for an operation. -/
def SetOperation.sign : SetOperation → Char
  | intersection => '&'
  | difference => '-'
  | symmetricDifference => '~'

/-- The class of the innermost bracket, where its closing bracket ends before a place. -/
def ClassReader.bracket (reader : ClassReader) (behind : Cursor) : SizedClass :=
  ⟨.bracket reader.level.content.item reader.frame.negated
    ⟨reader.frame.opened.start, behind.position⟩, 1 + reader.level.content.depth⟩

/-- What one part of a bracket comes to, by the characters that it starts with at a cursor. -/
inductive ClassReader.Steps (spaced : Bool) (reader : ClassReader) (cursor : Cursor) :
    (SizedClass × Cursor) ⊕ ClassReader → Prop
  | named {rest : Text} {item : SizedClass} {behind : Cursor} (hrest : cursor.rest = '[' :: rest)
      (hnamed : scanNamed? cursor = some (item, behind)) :
      reader.Steps spaced cursor
        (.inr { reader with cursor := behind, level := reader.level.push item })
  | opens {rest : Text} {behind : Cursor} {level : ClassLevel} {frame : ClassFrame}
      (hrest : cursor.rest = '[' :: rest) (hnamed : scanNamed? cursor = none)
      (hopen : openClass spaced reader.level cursor = .ok (behind, level, frame)) :
      reader.Steps spaced cursor (.inr ⟨behind, level, frame, reader.frame :: reader.frames⟩)
  | ends {rest : Text} (hrest : cursor.rest = ']' :: rest) (hframes : reader.frames = []) :
      reader.Steps spaced cursor (.inl (reader.bracket (cursor.skip 1), cursor.skip 1))
  | closes {rest : Text} {frame : ClassFrame} {frames : List ClassFrame}
      (hrest : cursor.rest = ']' :: rest) (hframes : reader.frames = frame :: frames) :
      reader.Steps spaced cursor (.inr ⟨cursor.skip 1,
        reader.frame.outer.push (reader.bracket (cursor.skip 1)), frame, frames⟩)
  | operator {rest : Text} (operation : SetOperation)
      (hrest : cursor.rest = operation.sign :: operation.sign :: rest) :
      reader.Steps spaced cursor (.inr ({ reader with cursor := cursor }.operate operation))
  | range {c : Char} {rest : Text} {item : SizedClass} {behind : Cursor}
      (hrest : cursor.rest = c :: rest) (hopens : c ≠ '[') (hcloses : c ≠ ']')
      (hoperator : ∀ operation : SetOperation, c = operation.sign → rest.head? ≠ some c)
      (hrange : scanRange spaced ⟨.classUnclosed, reader.frame.opened, none⟩ c cursor =
        .ok (item, behind)) :
      reader.Steps spaced cursor
        (.inr { reader with cursor := behind, level := reader.level.push item })

/-- A part is read as it starts, behind blanks and comments. -/
theorem ClassReader.step_eq_ok_iff {spaced : Bool} {reader : ClassReader}
    {result : (SizedClass × Cursor) ⊕ ClassReader} :
    reader.step spaced = .ok result ↔
      reader.Steps spaced (reader.cursor.settle spaced) result := by
  unfold ClassReader.step
  dsimp only
  generalize reader.cursor.settle spaced = cursor
  constructor
  · intro hstep
    split at hstep
    · cases hstep
    · rename_i hrest
      split at hstep
      · rename_i hnamed
        cases hstep
        exact .named hrest hnamed
      · rename_i hnamed
        obtain ⟨⟨behind, level, frame⟩, hopen, hstep⟩ := eq_ok_of_bind hstep
        cases hstep
        exact .opens hrest hnamed hopen
    · rename_i hrest
      split at hstep
      · rename_i hframes
        cases hstep
        exact .ends hrest hframes
      · rename_i hframes
        cases hstep
        exact .closes hrest hframes
    · rename_i hrest
      cases hstep
      exact .operator .intersection hrest
    · rename_i hrest
      cases hstep
      exact .operator .difference hrest
    · rename_i hrest
      cases hstep
      exact .operator .symmetricDifference hrest
    · rename_i c rest hopens hcloses hand hminus htilde hrest
      obtain ⟨⟨item, behind⟩, hrange, hstep⟩ := eq_ok_of_bind hstep
      cases hstep
      refine .range hrest hopens hcloses ?_ hrange
      intro operation hsign hsecond
      obtain ⟨others, hothers⟩ := List.head?_eq_some_iff.mp hsecond
      subst hsign
      cases operation with
      | intersection => exact hand others rfl hothers
      | difference => exact hminus others rfl hothers
      | symmetricDifference => exact htilde others rfl hothers
  · intro hsteps
    cases hsteps with
    | named hrest hnamed => simp only [hrest, hnamed]; rfl
    | opens hrest hnamed hopen => simp only [hrest, hnamed, hopen]; rfl
    | ends hrest hframes => simp only [hrest, hframes]; rfl
    | closes hrest hframes => simp only [hrest, hframes]; rfl
    | operator operation hrest =>
      cases operation <;> simp only [SetOperation.sign] at hrest <;> simp only [hrest] <;> rfl
    | range hrest hopens hcloses hoperator hrange =>
      simp only [hrest]
      split
      · rename_i hnil
        cases hnil
      · rename_i hsame
        exact absurd (List.cons.inj hsame).1 hopens
      · rename_i hsame
        exact absurd (List.cons.inj hsame).1 hcloses
      · rename_i hsame
        obtain ⟨rfl, rfl⟩ := List.cons.inj hsame
        exact absurd rfl (hoperator .intersection rfl)
      · rename_i hsame
        obtain ⟨rfl, rfl⟩ := List.cons.inj hsame
        exact absurd rfl (hoperator .difference rfl)
      · rename_i hsame
        obtain ⟨rfl, rfl⟩ := List.cons.inj hsame
        exact absurd rfl (hoperator .symmetricDifference rfl)
      · rename_i hsame
        cases hsame
        simp only [hrange]
        rfl

end Orthography.Pattern
