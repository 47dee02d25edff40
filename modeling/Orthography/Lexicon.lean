import Orthography.Dictionary.Stems
import Orthography.Reach

/-!
# Lexicons

A lexicon joins an affix grammar and a stem list: it knows for every entry how far its forms can be
from the stem, and has the compound rules with their members filled in.  Both are determined by the
grammar and the stem list.
-/

namespace Orthography

namespace Entry

/-- Whether an entry has a code; a code of one character is found inside longer ones. -/
def carries (entry : Entry) (code : Code) : Bool :=
  entry.codes.any fun held =>
    held == code || match code with
      | [c] => decide (c ∈ held)
      | _ => false

end Entry

namespace Grammar

/-- The bound for all forms of an entry. -/
def reachOf (table : Table Reach) (entry : Entry) : Reach := reachIn table entry.codes

/-- The stems of a list that stand for a code in compounds: those that have it and are not shorter
than words in compounds have to be.  Only the codes that the grammar speaks of are looked for. -/
def members (grammar : Grammar) (dictionary : Dictionary) (code : Code) : List Text :=
  let longEnough (stem : Text) : Bool :=
    match grammar.settings.compoundMin? with
    | some least => least ≤ stem.length
    | none => true
  if grammar.compoundCodes.contains code then
    (dictionary.entries.filter fun entry => longEnough entry.stem && entry.carries code).map
      (·.stem)
  else []

/-- The matcher of a compound rule over a stem list; a rule without members or whose pattern cannot
be read is noted and passed over. -/
def compileCompound (grammar : Grammar) (dictionary : Dictionary) (rule : CompoundRule) :
    Logged (Option CompoundMatcher) :=
  match rule.compile (grammar.members dictionary) with
  | .ok (some matcher) => pure (some matcher)
  | .ok none => do
    Logged.note .debug s!"compound rule `{rule.source.string}` has no members, skipped"
    return none
  | .error refusal => do
    Logged.note .warn
      s!"compound rule `{rule.source.string}` does not compile: {refusal.message}"
    return none

/-- The matchers of the compound rules over a stem list. -/
def compileCompounds (grammar : Grammar) (dictionary : Dictionary) :
    Logged (List CompoundMatcher) :=
  .gather (grammar.compoundRules.map (grammar.compileCompound dictionary))

end Grammar

/-- A grammar and a stem list, ready for use. -/
structure Lexicon where
  grammar : Grammar
  dictionary : Dictionary
  /-- The bounds of the entries, in their order. -/
  reaches : List Reach
  compounds : List CompoundMatcher
  reaches_eq : reaches = dictionary.entries.map (Grammar.reachOf grammar.reachTable)
  compounds_eq : compounds = (grammar.compileCompounds dictionary).value

namespace Lexicon

/-- The summary of a lexicon in the journal. -/
def summary (lexicon : Lexicon) : String :=
  s!"lexicon ready: {lexicon.dictionary.entries.length} stems, " ++
    s!"{lexicon.grammar.rules.size} rules, {lexicon.compounds.length} compound matchers"

/-- The lexicon of a grammar and a stem list. -/
def build (grammar : Grammar) (dictionary : Dictionary) : Logged Lexicon :=
  let compounds := grammar.compileCompounds dictionary
  let table := grammar.reachTable
  let lexicon : Lexicon :=
    { grammar := grammar
      dictionary := dictionary
      reaches := dictionary.entries.map (Grammar.reachOf table)
      compounds := compounds.value
      reaches_eq := rfl
      compounds_eq := rfl }
  .noting (compounds.records ++ [⟨.debug, lexicon.summary⟩]) lexicon

@[simp] theorem grammar_build (grammar : Grammar) (dictionary : Dictionary) :
    (build grammar dictionary).value.grammar = grammar := rfl

@[simp] theorem dictionary_build (grammar : Grammar) (dictionary : Dictionary) :
    (build grammar dictionary).value.dictionary = dictionary := rfl

/-- The entries of a lexicon, each with its bound. -/
def stems (lexicon : Lexicon) : List (Entry × Reach) :=
  lexicon.dictionary.entries.zip lexicon.reaches

/-- Whether entries with some codes are marked by a setting. -/
def marks (lexicon : Lexicon) (setting : Text) (entry : Entry) : Bool :=
  lexicon.grammar.settings.marks setting entry.codes

/-- Whether a word is a compound by some rule. -/
def matchesCompound (lexicon : Lexicon) (word : Text) : Bool :=
  lexicon.compounds.any (·.isMatch word)

/-- Whether the stem of an entry is a word by itself.  A stem with codes is a word only if one of
its rules derives it. -/
def standsAlone (_ : Lexicon) (entry : Entry) : Bool := entry.isBare

/-- Whether a form of an entry may be used as a word: a stem that needs an affix never is one. -/
def admits (lexicon : Lexicon) (entry : Entry) (form : Text) : Bool :=
  form != entry.stem || !lexicon.marks Settings.needAffix entry

/-- Whether an entry could give a word at all, judging by its surfaces and its root. -/
def couldGive (entry : Entry) (reach : Reach) (word : Text) : Bool :=
  entry.surfaces.any (·.isPrefixOf word) ||
    let root := reach.root entry.stem
    if reach.prepends then Text.contains root word else root.isPrefixOf word

/-- Whether the entry at a place of the stem list could give a word at all. -/
def mayDerive (lexicon : Lexicon) (index : Nat) (word : Text) : Bool :=
  lexicon.stems[index]?.any fun (entry, reach) => couldGive entry reach word

/-- The codes of an entry that may name rules. -/
def ruleCodes (entry : Entry) : List Code := entry.codes.filter (· != Code.sentinel)

/-- The forms that the rules of an entry derive and that may be used as words. -/
def derived (lexicon : Lexicon) (entry : Entry) : Logged (List Text) :=
  (fun forms => (forms.flatten).filter (lexicon.admits entry)) <$>
    .gather ((ruleCodes entry).map fun code =>
      some <$> lexicon.grammar.formsByCode code entry.stem)

/-- All words that an entry gives: the stem, if it stands alone, and the derived forms, each
once. -/
def expand (lexicon : Lexicon) (entry : Entry) : Logged (List Text) :=
  (fun forms => ((if lexicon.standsAlone entry then [entry.stem] else []) ++ forms).eraseDups) <$>
    lexicon.derived entry

end Lexicon

end Orthography
