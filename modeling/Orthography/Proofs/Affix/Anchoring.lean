import Orthography.Proofs.Affix.Entries
import Orthography.Proofs.Pattern.Framing

/-!
# Where a condition takes away

A condition is meant to take away from one end of a word only, whatever its source says.  It does
where the source is a pattern by itself.  A source that closes the group around it and opens another
one is no pattern by itself but may be one in its frame, and then the anchor belongs to its last
alternative alone.
-/

namespace Orthography

open Pattern

/-- Whether the part of a word from `start` to `stop` touches the end that an anchor stands for. -/
def Anchor.Touches (word : Text) (start stop : Nat) : Anchor → Prop
  | .start => start = 0
  | .stop => stop = word.length

/-- Whether `rest` is left where part of a word is taken away at the end that an anchor stands for
only. -/
def Anchor.Leaves (word rest : Text) : Anchor → Prop
  | .start => rest <:+ word
  | .stop => rest <+: word

instance (word rest : Text) : (anchor : Anchor) → Decidable (anchor.Leaves word rest)
  | .start => inferInstanceAs (Decidable (rest <:+ word))
  | .stop => inferInstanceAs (Decidable (rest <+: word))

namespace Condition

variable {source : Text} {anchor : Anchor} {node : Node} {condition : Condition}

/-- A condition is the pattern of its source in the frame of its anchor. -/
theorem read_of_ofSource (hcondition : ofSource source anchor = .ok condition) :
    Node.read false (anchor.frame source) = .ok condition.node := by
  unfold ofSource at hcondition
  split at hcondition
  · rename_i read hread
    cases hcondition
    exact hread
  · cases hcondition

/-- Every match of a condition whose source is a pattern by itself touches the anchored end. -/
theorem touches_of_find? (hsource : Node.read false source = .ok node)
    (hcondition : ofSource source anchor = .ok condition) {word : Text} {start stop : Nat}
    (hfound : condition.node.find? word = some (start, stop)) :
    anchor.Touches word start stop := by
  have hread := read_of_ofSource hcondition
  have hmatch := Node.mem_ends_of_findFrom? hfound
  cases anchor with
  | start => exact startsText_of_read hsource hread _ _ _ hmatch
  | stop => exact (endsText_of_read hsource hread _ _ _ hmatch).trans List.size_toArray

/-- What is taken away at one end leaves the other. -/
theorem leaves_of_touches {word : Text} {start stop : Nat}
    (htouches : anchor.Touches word start stop) :
    anchor.Leaves word (word.take start ++ word.drop stop) := by
  cases anchor with
  | start =>
      obtain rfl : start = 0 := htouches
      exact List.drop_suffix _ _
  | stop =>
      obtain rfl : stop = word.length := htouches
      rw [List.drop_length, List.append_nil]
      exact List.take_prefix _ _

/-- A condition whose source is a pattern by itself takes away from the anchored end of a word only:
the match that it removes touches that end. -/
theorem strip_leaves_of_read (hsource : Node.read false source = .ok node)
    (hcondition : ofSource source anchor = .ok condition) (word : Text) :
    anchor.Leaves word (condition.strip word) ∧
      ∀ start stop, condition.node.find? word = some (start, stop) →
        anchor.Touches word start stop := by
  refine ⟨?_, fun start stop hfound => touches_of_find? hsource hcondition hfound⟩
  unfold strip Node.strip
  split
  · rename_i start stop hfound
    exact leaves_of_touches (touches_of_find? hsource hcondition hfound)
  · cases anchor with
    | start => exact List.suffix_rfl
    | stop => exact List.prefix_rfl

/-- The alternatives of a source that is a pattern by itself all stand in front of its anchor. -/
theorem strip_leaves_of_read_alternatives :
    ∃ (node : Node) (condition : Condition), Node.read false "y|ies".toList = .ok node ∧
      ofSource "y|ies".toList .stop = .ok condition ∧
      condition.strip "yodelies".toList = "yodel".toList ∧
      Anchor.stop.Leaves "yodelies".toList (condition.strip "yodelies".toList) := by
  let node := (Node.read false "y|ies".toList).toOption.getD .empty
  let whole := (Node.read false (Anchor.stop.frame "y|ies".toList)).toOption.getD .empty
  have hsource : Node.read false "y|ies".toList = .ok node := by decide +kernel
  have hread : Node.read false (Anchor.stop.frame "y|ies".toList) = .ok whole := by decide +kernel
  let condition : Condition := ⟨"y|ies".toList, .stop, whole, hread⟩
  have hcondition : ofSource "y|ies".toList .stop = .ok condition := condition.ofSource_source
  have hstrip : whole.strip "yodelies".toList = "yodel".toList := by decide +kernel
  exact ⟨node, condition, hsource, hcondition, hstrip,
    (strip_leaves_of_read hsource hcondition "yodelies".toList).1⟩

/-- A source that closes the group around it and opens another has its anchor in the last one only,
so that it takes away from the other end of a word. -/
theorem strip_of_closed_group :
    ∃ condition, ofSource "a)|(?:b".toList .stop = .ok condition ∧
      condition.strip "ab".toList = "b".toList ∧
      ¬Anchor.stop.Leaves "ab".toList (condition.strip "ab".toList) := by
  let whole := (Node.read false (Anchor.stop.frame "a)|(?:b".toList)).toOption.getD .empty
  have hread : Node.read false (Anchor.stop.frame "a)|(?:b".toList) = .ok whole := by
    decide +kernel
  let condition : Condition := ⟨"a)|(?:b".toList, .stop, whole, hread⟩
  have hstrip : condition.strip "ab".toList = "b".toList := by
    change whole.strip "ab".toList = "b".toList
    decide +kernel
  exact ⟨condition, condition.ofSource_source, hstrip, by rw [hstrip]; decide⟩

end Condition

end Orthography
