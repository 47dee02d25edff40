import Orthography.Character.CaseData
import Orthography.Character.LetterData

/-!
# Letter case

Which characters are upper-case or lower-case letters, the full case mappings of one character, and
the simple case folding.  Two characters fold alike when they have the same fold key; `foldOrbit`
lists all characters that fold like a given one (`mem_foldOrbit`).
-/

namespace Orthography.Character

/-- Whether a character is an upper-case letter. -/
def isUpper (c : Char) : Bool :=
  upperRuns.any (·.contains c.toNat)

/-- Whether a character is a lower-case letter. -/
def isLower (c : Char) : Bool :=
  lowerRuns.any (·.contains c.toNat)

/-- Whether a character is a letter of either case, or the title-case form of one. -/
def isCased (c : Char) : Bool :=
  insideStretches casedStretches c.toNat

/-- Whether a character is passed over when the letters around a position are sought. -/
def isCaseIgnorable (c : Char) : Bool :=
  insideStretches caseIgnorableStretches c.toNat

/-- The case mapping given by a table of one-character forms and a table of longer ones. -/
def recase (shifts : List Shift) (expansions : List (Nat × List Nat)) (c : Char) : List Char :=
  match expansions.lookup c.toNat with
  | some codes => codes.map Char.ofNat
  | none => [Char.ofNat ((shiftOf? shifts c.toNat).getD c.toNat)]

/-- The upper-case form of a character, which may be longer than one character. -/
def toUpper (c : Char) : List Char :=
  recase toUpperShifts toUpperExpansions c

/-- The lower-case form of a character, which may be longer than one character. -/
def toLower (c : Char) : List Char :=
  recase toLowerShifts toLowerExpansions c

/-- The code point that stands for all characters that fold alike. -/
def foldKey (c : Char) : Nat :=
  (shiftOf? foldShifts c.toNat).getD c.toNat

/-- Every character that folds like `c`. -/
def foldOrbit (c : Char) : List Char :=
  ((foldKey c :: shiftSources foldShifts (foldKey c)).map Char.ofNat).filter
    fun d => foldKey d == foldKey c

/-- The orbit of a character holds exactly the characters with the same fold key. -/
theorem mem_foldOrbit {c d : Char} : d ∈ foldOrbit c ↔ foldKey d = foldKey c := by
  refine ⟨fun h => by simpa using (List.mem_filter.1 h).2, fun same => ?_⟩
  refine List.mem_filter.2 ⟨List.mem_map.2 ⟨d.toNat, ?_, d.ofNat_toNat⟩, by simpa using same⟩
  cases moved : shiftOf? foldShifts d.toNat with
  | none => exact List.mem_cons.2 (.inl (by rw [← same, foldKey, moved]; rfl))
  | some code =>
    have image : code = foldKey c := by rw [← same, foldKey, moved]; rfl
    exact List.mem_cons.2 (.inr (image ▸ mem_shiftSources moved))

end Orthography.Character
