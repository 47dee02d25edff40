import Orthography.ResultCache
import Orthography.Suggestion.Ranking

/-!
# Sessions

A session is given its files one by one, in any order, and answers once it has an affix grammar and
a stem list.  Results are kept in caches, which are emptied whenever something they depend on is
replaced, so an answer depends on the files and options in force and not on earlier questions.
-/

namespace Orthography

/-- Why a session does not do what it is asked for. -/
inductive SessionError where
  /-- The affix grammar or the stem list is missing. -/
  | notLoaded
  /-- The affix file cannot be read. -/
  | affix (block : TruncatedBlock)
  deriving DecidableEq, Repr

/-- The wording of an error. -/
def SessionError.message : SessionError → String
  | notLoaded => "dictionary not loaded: affix and dictionary data are both required"
  | affix block => s!"failed to compile affix data: {block.message}"

/-- What a session has been given so far. -/
inductive Stock where
  | nothing
  | grammar (given : Grammar)
  | dictionary (given : Dictionary)
  | ready (lexicon : Lexicon)

namespace Stock

/-- The grammar given. -/
def grammar? : Stock → Option Grammar
  | grammar given => some given
  | ready lexicon => some lexicon.grammar
  | nothing | dictionary _ => none

/-- The stem list given. -/
def dictionary? : Stock → Option Dictionary
  | dictionary given => some given
  | ready lexicon => some lexicon.dictionary
  | nothing | grammar _ => none

/-- The lexicon, if both are given. -/
def lexicon? : Stock → Option Lexicon
  | ready lexicon => some lexicon
  | nothing | grammar _ | dictionary _ => none

/-- The stock of what is given; with both parts the lexicon is built. -/
def link : Option Grammar → Option Dictionary → Logged Stock
  | some rules, some stems => do
    let lexicon ← Lexicon.build rules stems
    Logged.note .debug "handle loaded"
    return .ready lexicon
  | some rules, none => pure (.grammar rules)
  | none, some stems => pure (.dictionary stems)
  | none, none => pure .nothing

end Stock

/-- Options of a session. -/
structure SessionOptions where
  /-- Corrections farther than this are not suggested. -/
  maxDistance : Nat
  /-- The number of suggestions where none is asked for. -/
  maxSuggestions : Nat
  /-- The size of the caches. -/
  cacheSize : Nat
  deriving DecidableEq, Repr

/-- The options of a new session. -/
def SessionOptions.usual : SessionOptions := ⟨2, 5, 0⟩

/-- A session: what it has been given, its options, and the results it keeps. -/
structure Session where
  stock : Stock
  frequencies : Frequencies
  normalization : List NormalizationRule
  sources : List Source
  options : SessionOptions
  checks : ResultCache Bool
  suggestions : ResultCache (List Suggestion)

namespace Session

/-- A session that has been given nothing. -/
def new : Session :=
  { stock := .nothing
    frequencies := .empty
    normalization := []
    sources := Source.usual
    options := .usual
    checks := .ofSize SessionOptions.usual.cacheSize
    suggestions := .ofSize SessionOptions.usual.cacheSize }

/-- A session with its caches emptied. -/
def clearCaches (session : Session) : Session :=
  { session with checks := session.checks.clear, suggestions := session.suggestions.clear }

/-- A session with its parts replaced. -/
def restock (session : Session) (grammar : Option Grammar) (dictionary : Option Dictionary) :
    Logged Session :=
  (fun stock => { session.clearCaches with stock := stock }) <$> Stock.link grammar dictionary

/-- Gives an affix file; if it cannot be read, the session stays as it is. -/
def setAffix (session : Session) (text : Text) : Logged (Except SessionError Session) := do
  match ← Grammar.read text with
  | .error block => return .error (.affix block)
  | .ok grammar => return .ok (← session.restock (some grammar) session.stock.dictionary?)

/-- Gives a stem list. -/
def setDictionary (session : Session) (text : Text) : Logged Session := do
  session.restock session.stock.grammar? (some (← Dictionary.read text))

/-- Gives a list of words with their weights. -/
def setFrequencies (session : Session) (text : Text) : Logged Session := do
  return { session.clearCaches with frequencies := ← Frequencies.read text }

/-- Gives the rules of normalization. -/
def setNormalization (session : Session) (text : Text) : Logged Session := do
  return { session.clearCaches with normalization := ← NormalizationRule.readAll text }

/-- Chooses the sources of corrections. -/
def setSources (session : Session) (sources : List Source) : Session :=
  { session.clearCaches with sources := sources }

/-- Sets the greatest distance of corrections. -/
def setMaxDistance (session : Session) (distance : Nat) : Session :=
  { session.clearCaches with options := { session.options with maxDistance := distance } }

/-- Sets the number of suggestions where none is asked for. -/
def setMaxSuggestions (session : Session) (count : Nat) : Session :=
  { session with options := { session.options with maxSuggestions := count } }

/-- Replaces the caches by empty ones of a size. -/
def setCacheSize (session : Session) (size : Nat) : Session :=
  { session with
    options := { session.options with cacheSize := min size ResultCache.maxSize }
    checks := .ofSize size
    suggestions := .ofSize size }

/-- A session that has been given its files at once. -/
def load (affix dictionary : Text) (frequencies : Option Text) :
    Logged (Except SessionError Session) := do
  match ← new.setAffix affix with
  | .error error => return .error error
  | .ok session =>
    let session ← session.setDictionary dictionary
    match frequencies with
    | some text => return .ok (← session.setFrequencies text)
    | none => return .ok session

/-- Whether a session can answer. -/
def isLoaded (session : Session) : Bool := session.stock.lexicon?.isSome

/-- The lexicon of a session. -/
def lexicon (session : Session) : Except SessionError Lexicon :=
  match session.stock.lexicon? with
  | some lexicon => .ok lexicon
  | none => .error .notLoaded

/-- What corrections are found with. -/
def rankingOptions (session : Session) : RankingOptions :=
  ⟨session.sources, session.options.maxDistance, session.frequencies⟩

/-- Whether a word is known, with a lexicon that the session has. -/
def checkWith (session : Session) (lexicon : Lexicon) (word : Text) : Logged (Session × Bool) :=
  match session.checks.get? word with
  | some known => pure (session, known)
  | none => do
    let known ← lexicon.check session.normalization word
    return ({ session with checks := session.checks.insert word known }, known)

/-- Whether a word is known. -/
def check (session : Session) (word : Text) : Logged (Session × Except SessionError Bool) :=
  match session.lexicon with
  | .error error => pure (session, .error error)
  | .ok lexicon => (fun (session, known) => (session, .ok known)) <$> session.checkWith lexicon word

/-- All suggestions for a word, with a lexicon that the session has. -/
def rankWith (session : Session) (lexicon : Lexicon) (word : Text) :
    Logged (Session × List Suggestion) :=
  match session.suggestions.get? word with
  | some ranked => pure (session, ranked)
  | none => do
    let ranked ← lexicon.suggestions session.normalization session.rankingOptions word
    return ({ session with suggestions := session.suggestions.insert word ranked }, ranked)

/-- At most `limit` suggestions for a word, the best first; none for a word that is known. -/
def suggest (session : Session) (word : Text) (limit : Nat) :
    Logged (Session × Except SessionError (List Suggestion)) :=
  match session.lexicon with
  | .error error => pure (session, .error error)
  | .ok lexicon =>
    if limit = 0 then pure (session, .ok [])
    else do
      let (session, known) ← session.checkWith lexicon word
      if known then return (session, .ok [])
      let (session, ranked) ← session.rankWith lexicon word
      return (session, .ok (ranked.take limit))

/-- Whether some entry that can be found under a word is marked by a setting. -/
def hasFlag (session : Session) (word setting : Text) : Except SessionError Bool :=
  session.lexicon.map fun lexicon =>
    (lexicon.dictionary.lookup word).any (lexicon.marks setting)

/-- All words that the entries with a stem give, each once. -/
def expand (session : Session) (stem : Text) : Logged (Except SessionError (List Text)) :=
  match session.lexicon with
  | .error error => pure (.error error)
  | .ok lexicon =>
    (fun forms => .ok forms.flatten.eraseDups) <$>
      .gather ((lexicon.dictionary.entries.filter (·.stem == stem)).map fun entry =>
        some <$> lexicon.expand entry)

/-- The stems of the lexicon, in order. -/
def stems (session : Session) : Except SessionError (List Text) :=
  session.lexicon.map fun lexicon => lexicon.dictionary.entries.map (·.stem)

end Session

end Orthography
