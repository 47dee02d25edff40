import Orthography.Proofs.CacheLookup
import Orthography.Session

/-!
# Runs of a session

A session is driven by requests: files and options to be put in force, and questions.  Whatever the
order of the requests, a result held in a cache is the one that would be computed now
(`resultsCurrent_run`), so an answer depends on the inputs of the session alone
(`answer_eq_of_inputs_eq`).
-/

namespace Orthography

/-- What a session can be asked. -/
inductive Question where
  | isLoaded
  | check (word : Text)
  | suggest (word : Text) (limit : Nat)
  | suggestDetailed (word : Text) (limit : Nat)
  | hasFlag (word setting : Text)
  | expand (stem : Text)
  deriving DecidableEq, Repr

/-- What a session can answer. -/
inductive Answer where
  | loaded (loaded : Bool)
  | verdict (verdict : Except SessionError Bool)
  | words (words : Except SessionError (List Text))
  | suggestions (found : Except SessionError (List Suggestion))

/-- What a session can be told to do. -/
inductive Request where
  | setAffix (text : Text)
  | setDictionary (text : Text)
  | setFrequencies (text : Text)
  | setNormalization (text : Text)
  | setSources (sources : List Source)
  | setMaxDistance (distance : Nat)
  | setMaxSuggestions (count : Nat)
  | setCacheSize (size : Nat)
  | ask (question : Question)
  deriving DecidableEq, Repr

namespace Session

/-- The words of some suggestions. -/
def wordsOf (found : List Suggestion) : List Text := found.map (·.word)

/-- A session after a question, with the answer. -/
def ask (session : Session) : Question → Session × Answer
  | .isLoaded => (session, .loaded session.isLoaded)
  | .check word =>
    let (next, known) := (session.check word).value
    (next, .verdict known)
  | .suggest word limit =>
    let (next, found) := (session.suggest word limit).value
    (next, .words (found.map wordsOf))
  | .suggestDetailed word limit =>
    let (next, found) := (session.suggest word limit).value
    (next, .suggestions found)
  | .hasFlag word setting => (session, .verdict (session.hasFlag word setting))
  | .expand stem => (session, .words (session.expand stem).value)

/-- The answer of a session to a question. -/
def answer (session : Session) (question : Question) : Answer := (session.ask question).2

/-- A session after a request; an affix file that cannot be read leaves it as it is. -/
def perform (session : Session) : Request → Session
  | .setAffix text =>
    match (session.setAffix text).value with
    | .ok next => next
    | .error _ => session
  | .setDictionary text => (session.setDictionary text).value
  | .setFrequencies text => (session.setFrequencies text).value
  | .setNormalization text => (session.setNormalization text).value
  | .setSources sources => session.setSources sources
  | .setMaxDistance distance => session.setMaxDistance distance
  | .setMaxSuggestions count => session.setMaxSuggestions count
  | .setCacheSize size => session.setCacheSize size
  | .ask question => (session.ask question).1

/-- A session after some requests, the first of them first. -/
def run (session : Session) (requests : List Request) : Session := requests.foldl perform session

@[simp] theorem run_cons (session : Session) (request : Request) (rest : List Request) :
    session.run (request :: rest) = (session.perform request).run rest := rfl

/-- A session without the results that it holds: its inputs and options alone. -/
def inputs (session : Session) : Session :=
  { session with checks := .ofSize 0, suggestions := .ofSize 0 }

@[simp] theorem lexicon_inputs (session : Session) : session.inputs.lexicon = session.lexicon := rfl

@[simp] theorem normalization_inputs (session : Session) :
    session.inputs.normalization = session.normalization := rfl

@[simp] theorem rankingOptions_inputs (session : Session) :
    session.inputs.rankingOptions = session.rankingOptions := rfl

/-- Every result held is the one that the inputs in force give. -/
structure ResultsCurrent (session : Session) : Prop where
  checks : ∀ word known, session.checks.get? word = some known →
    ∃ lexicon, session.stock.lexicon? = some lexicon ∧
      (lexicon.check session.normalization word).value = known
  suggestions : ∀ word found, session.suggestions.get? word = some found →
    ∃ lexicon, session.stock.lexicon? = some lexicon ∧
      (lexicon.suggestions session.normalization session.rankingOptions word).value = found

/-- A session that holds no results holds no wrong ones. -/
theorem resultsCurrent_of_empty {session : Session}
    (hchecks : ∀ word, session.checks.get? word = none)
    (hsuggestions : ∀ word, session.suggestions.get? word = none) :
    ResultsCurrent session := by
  constructor
  · intro word known hfound
    rw [hchecks word] at hfound
    cases hfound
  · intro word found hfound
    rw [hsuggestions word] at hfound
    cases hfound

/-! ### What questions find and leave behind -/

section Questions

variable {session : Session} {lexicon : Lexicon}

/-- With a lexicon at hand, a check says what the lexicon says. -/
theorem checkWith_snd (hcurrent : ResultsCurrent session)
    (hlexicon : session.stock.lexicon? = some lexicon) (word : Text) :
    (session.checkWith lexicon word).value.2 =
      (lexicon.check session.normalization word).value := by
  rw [checkWith]
  split
  · rename_i known hfound
    obtain ⟨other, hother, hknown⟩ := hcurrent.checks word known hfound
    have hsame : other = lexicon := Option.some.inj (hother.symm.trans hlexicon)
    rw [← hknown, hsame]
    rfl
  · rfl

/-- A check leaves the inputs as they are. -/
theorem inputs_checkWith (session : Session) (lexicon : Lexicon) (word : Text) :
    (session.checkWith lexicon word).value.1.inputs = session.inputs := by
  rw [checkWith]
  split <;> rfl

/-- A check stores nothing but what the lexicon says. -/
theorem resultsCurrent_checkWith (hcurrent : ResultsCurrent session)
    (hlexicon : session.stock.lexicon? = some lexicon) (word : Text) :
    ResultsCurrent (session.checkWith lexicon word).value.1 := by
  rw [checkWith]
  split
  · exact hcurrent
  · constructor
    · intro other known hfound
      rcases ResultCache.get?_insert_cases hfound with ⟨rfl, rfl⟩ | hearlier
      · exact ⟨lexicon, hlexicon, rfl⟩
      · exact hcurrent.checks other known hearlier
    · exact hcurrent.suggestions

/-- With a lexicon at hand, all suggestions are those of the lexicon. -/
theorem rankWith_snd (hcurrent : ResultsCurrent session)
    (hlexicon : session.stock.lexicon? = some lexicon) (word : Text) :
    (session.rankWith lexicon word).value.2 =
      (lexicon.suggestions session.normalization session.rankingOptions word).value := by
  rw [rankWith]
  split
  · rename_i ranked hfound
    obtain ⟨other, hother, hranked⟩ := hcurrent.suggestions word ranked hfound
    have hsame : other = lexicon := Option.some.inj (hother.symm.trans hlexicon)
    rw [← hranked, hsame]
    rfl
  · rfl

/-- Ranking leaves the inputs as they are. -/
theorem inputs_rankWith (session : Session) (lexicon : Lexicon) (word : Text) :
    (session.rankWith lexicon word).value.1.inputs = session.inputs := by
  rw [rankWith]
  split <;> rfl

/-- Ranking stores nothing but the suggestions of the lexicon. -/
theorem resultsCurrent_rankWith (hcurrent : ResultsCurrent session)
    (hlexicon : session.stock.lexicon? = some lexicon) (word : Text) :
    ResultsCurrent (session.rankWith lexicon word).value.1 := by
  rw [rankWith]
  split
  · exact hcurrent
  · constructor
    · exact hcurrent.checks
    · intro other found hfound
      rcases ResultCache.get?_insert_cases hfound with ⟨rfl, rfl⟩ | hearlier
      · exact ⟨lexicon, hlexicon, rfl⟩
      · exact hcurrent.suggestions other found hearlier

/-- The lexicon of a session is the one in its stock. -/
theorem lexicon_eq_ok_iff :
    session.lexicon = .ok lexicon ↔ session.stock.lexicon? = some lexicon := by
  rw [Session.lexicon]
  split
  · rename_i hheld
    rw [hheld]
    simp
  · rename_i hnone
    rw [hnone]
    simp

/-- A check answers what the lexicon in force says. -/
theorem check_snd (hcurrent : ResultsCurrent session) (word : Text) :
    (session.check word).value.2 =
      session.lexicon.map fun lexicon => (lexicon.check session.normalization word).value := by
  rw [Session.check]
  split
  · rename_i herror
    rw [herror]
    rfl
  · rename_i lexicon hlexicon
    rw [hlexicon]
    exact congrArg Except.ok (checkWith_snd hcurrent (lexicon_eq_ok_iff.mp hlexicon) word)

/-- Suggestions are the first of those that the lexicon in force has for an unknown word. -/
theorem suggest_snd (hcurrent : ResultsCurrent session) (word : Text) (limit : Nat) :
    (session.suggest word limit).value.2 =
      session.lexicon.map fun lexicon =>
        if limit = 0 ∨ (lexicon.check session.normalization word).value = true then []
        else (lexicon.suggestions session.normalization session.rankingOptions word).value.take
          limit := by
  rw [Session.suggest]
  split
  · rename_i herror
    rw [herror]
    rfl
  · rename_i lexicon hlexicon
    have hstock := lexicon_eq_ok_iff.mp hlexicon
    rw [hlexicon]
    by_cases hlimit : limit = 0
    · simp [hlimit, Except.map]
    · have hknown := checkWith_snd hcurrent hstock word
      have hinputs := inputs_checkWith session lexicon word
      have hranked := rankWith_snd (resultsCurrent_checkWith hcurrent hstock word)
        ((congrArg (·.stock.lexicon?) hinputs).trans hstock) word
      have hnormalization : (session.checkWith lexicon word).value.1.normalization =
          session.normalization := by
        rw [← normalization_inputs, hinputs, normalization_inputs]
      have hoptions : (session.checkWith lexicon word).value.1.rankingOptions =
          session.rankingOptions := by
        rw [← rankingOptions_inputs, hinputs, rankingOptions_inputs]
      rw [hnormalization, hoptions] at hranked
      simp only [hlimit, ↓reduceIte, false_or, Except.map, Logged.value_bind, ← hknown, ← hranked]
      split <;> rfl

/-- A check leaves the inputs and keeps results current. -/
theorem check_fst (hcurrent : ResultsCurrent session) (word : Text) :
    (session.check word).value.1.inputs = session.inputs ∧
      ResultsCurrent (session.check word).value.1 := by
  rw [Session.check]
  split
  · exact ⟨rfl, hcurrent⟩
  · rename_i lexicon hlexicon
    exact ⟨inputs_checkWith session lexicon word,
      resultsCurrent_checkWith hcurrent (lexicon_eq_ok_iff.mp hlexicon) word⟩

/-- Looking for suggestions leaves the inputs and keeps results current. -/
theorem suggest_fst (hcurrent : ResultsCurrent session) (word : Text) (limit : Nat) :
    (session.suggest word limit).value.1.inputs = session.inputs ∧
      ResultsCurrent (session.suggest word limit).value.1 := by
  rw [Session.suggest]
  split
  · exact ⟨rfl, hcurrent⟩
  · rename_i lexicon hlexicon
    have hstock := lexicon_eq_ok_iff.mp hlexicon
    have hinputs := inputs_checkWith session lexicon word
    have hchecked := resultsCurrent_checkWith hcurrent hstock word
    split
    · exact ⟨rfl, hcurrent⟩
    · rw [Logged.value_bind]
      dsimp only
      split
      · exact ⟨hinputs, hchecked⟩
      · exact ⟨(inputs_rankWith _ lexicon word).trans hinputs,
          resultsCurrent_rankWith hchecked
            ((congrArg (·.stock.lexicon?) hinputs).trans hstock) word⟩

/-- No question changes the inputs, and results stay current. -/
theorem ask_fst (hcurrent : ResultsCurrent session) (question : Question) :
    (session.ask question).1.inputs = session.inputs ∧
      ResultsCurrent (session.ask question).1 := by
  cases question with
  | isLoaded => exact ⟨rfl, hcurrent⟩
  | check word => exact check_fst hcurrent word
  | suggest word limit => exact suggest_fst hcurrent word limit
  | suggestDetailed word limit => exact suggest_fst hcurrent word limit
  | hasFlag word setting => exact ⟨rfl, hcurrent⟩
  | expand stem => exact ⟨rfl, hcurrent⟩

end Questions

/-- Sessions with the same inputs answer alike, whatever results they hold. -/
theorem answer_eq_of_inputs_eq {a b : Session} (hcurrentA : ResultsCurrent a)
    (hcurrentB : ResultsCurrent b) (hinputs : a.inputs = b.inputs) (question : Question) :
    a.answer question = b.answer question := by
  have hlexicon : a.lexicon = b.lexicon := by rw [← lexicon_inputs a, hinputs, lexicon_inputs]
  have hnormalization : a.normalization = b.normalization := by
    rw [← normalization_inputs a, hinputs, normalization_inputs]
  have hoptions : a.rankingOptions = b.rankingOptions := by
    rw [← rankingOptions_inputs a, hinputs, rankingOptions_inputs]
  have hsuggest (word : Text) (limit : Nat) :
      (a.suggest word limit).value.2 = (b.suggest word limit).value.2 := by
    rw [suggest_snd hcurrentA, suggest_snd hcurrentB, hlexicon, hnormalization, hoptions]
  cases question with
  | isLoaded => exact congrArg (fun session => Answer.loaded session.isLoaded) hinputs
  | check word =>
    refine congrArg Answer.verdict ?_
    rw [check_snd hcurrentA, check_snd hcurrentB, hlexicon, hnormalization]
  | suggest word limit =>
    exact congrArg (fun found => Answer.words (found.map wordsOf)) (hsuggest word limit)
  | suggestDetailed word limit => exact congrArg Answer.suggestions (hsuggest word limit)
  | hasFlag word setting =>
    exact congrArg (fun session => Answer.verdict (session.hasFlag word setting)) hinputs
  | expand stem =>
    exact congrArg (fun session => Answer.words (session.expand stem).value) hinputs

/-! ### What requests leave behind -/

/-- Every request keeps results current: whatever changes an input empties the caches. -/
theorem resultsCurrent_perform {session : Session} (hcurrent : ResultsCurrent session)
    (request : Request) : ResultsCurrent (session.perform request) := by
  cases request with
  | setAffix text =>
    simp only [perform, setAffix, Logged.value_bind]
    split
    · rename_i next hnext
      split at hnext
      · cases hnext
      · cases hnext
        exact resultsCurrent_of_empty (ResultCache.get?_clear _) (ResultCache.get?_clear _)
    · exact hcurrent
  | setDictionary text =>
    exact resultsCurrent_of_empty (ResultCache.get?_clear _) (ResultCache.get?_clear _)
  | setFrequencies text =>
    exact resultsCurrent_of_empty (ResultCache.get?_clear _) (ResultCache.get?_clear _)
  | setNormalization text =>
    exact resultsCurrent_of_empty (ResultCache.get?_clear _) (ResultCache.get?_clear _)
  | setSources sources =>
    exact resultsCurrent_of_empty (ResultCache.get?_clear _) (ResultCache.get?_clear _)
  | setMaxDistance distance =>
    exact resultsCurrent_of_empty (ResultCache.get?_clear _) (ResultCache.get?_clear _)
  | setMaxSuggestions count => exact ⟨hcurrent.checks, hcurrent.suggestions⟩
  | setCacheSize size =>
    exact resultsCurrent_of_empty (ResultCache.get?_ofSize size) (ResultCache.get?_ofSize size)
  | ask question => exact (ask_fst hcurrent question).2

/-- Results stay current through every run. -/
theorem resultsCurrent_run {session : Session} (hcurrent : ResultsCurrent session)
    (requests : List Request) : ResultsCurrent (session.run requests) := by
  induction requests generalizing session with
  | nil => exact hcurrent
  | cons request rest ih => exact ih (resultsCurrent_perform hcurrent request)

/-- A new session holds no results. -/
theorem resultsCurrent_new : ResultsCurrent new :=
  resultsCurrent_of_empty (ResultCache.get?_ofSize _) (ResultCache.get?_ofSize _)

end Session

end Orthography
