import Mathlib.Data.List.Perm.Basic
import Orthography.Proofs.Session.Run

/-!
# Answers do not depend on the past

Of all that a session was told, only the last file or option of each kind is in force, and an affix
file counts only if it could be read.  A session answers as a new one would that is given just what
is in force, in any order, and was never asked before.
-/

namespace Orthography

/-- What is in force: the last text or value given for each part, if one was given. -/
structure InForce where
  affix : Option Text
  dictionary : Option Text
  frequencies : Option Text
  normalization : Option Text
  sources : Option (List Source)
  maxDistance : Option Nat
  maxSuggestions : Option Nat
  cacheSize : Option Nat

/-- Whether an affix file can be read. -/
def compiles (text : Text) : Bool := (Grammar.read text).value.toBool

namespace Request

/-- Whether a request gives an affix file that can be read. -/
def givesAffix : Request → Bool
  | setAffix text => compiles text
  | _ => false

/-- Whether a request gives a stem list. -/
def givesDictionary : Request → Bool
  | setDictionary _ => true
  | _ => false

end Request

namespace InForce

/-- Nothing has been given. -/
def nothing : InForce := ⟨none, none, none, none, none, none, none, none⟩

/-- What is in force after one more request. -/
def record (inForce : InForce) : Request → InForce
  | .setAffix text => if compiles text then { inForce with affix := some text } else inForce
  | .setDictionary text => { inForce with dictionary := some text }
  | .setFrequencies text => { inForce with frequencies := some text }
  | .setNormalization text => { inForce with normalization := some text }
  | .setSources sources => { inForce with sources := some sources }
  | .setMaxDistance distance => { inForce with maxDistance := some distance }
  | .setMaxSuggestions count => { inForce with maxSuggestions := some count }
  | .setCacheSize size => { inForce with cacheSize := some size }
  | .ask _ => inForce

/-- What is in force after some requests to a new session. -/
def after (history : List Request) : InForce := history.foldl record nothing

/-- The requests that give the files in force. -/
def files (inForce : InForce) : List Request :=
  (inForce.affix.map .setAffix).toList ++ (inForce.dictionary.map .setDictionary).toList ++
    (inForce.frequencies.map .setFrequencies).toList ++
    (inForce.normalization.map .setNormalization).toList

/-- The requests that make the choices in force. -/
def choices (inForce : InForce) : List Request :=
  (inForce.sources.map .setSources).toList ++ (inForce.maxDistance.map .setMaxDistance).toList ++
    (inForce.maxSuggestions.map .setMaxSuggestions).toList ++
    (inForce.cacheSize.map .setCacheSize).toList

/-- The requests that put in force just what is in force, each part once. -/
def requests (inForce : InForce) : List Request := inForce.files ++ inForce.choices

/-- The grammar of the affix file in force. -/
def grammar? (inForce : InForce) : Option Grammar :=
  inForce.affix.bind fun text => (Grammar.read text).value.toOption

/-- The stem list in force. -/
def dictionary? (inForce : InForce) : Option Dictionary :=
  inForce.dictionary.map fun text => (Dictionary.read text).value

/-- The session that has been given what is in force and holds no results. -/
def session (inForce : InForce) : Session :=
  { stock := (Stock.link inForce.grammar? inForce.dictionary?).value
    frequencies := (inForce.frequencies.map fun text => (Frequencies.read text).value).getD .empty
    normalization :=
      (inForce.normalization.map fun text => (NormalizationRule.readAll text).value).getD []
    sources := inForce.sources.getD Source.usual
    options :=
      { maxDistance := inForce.maxDistance.getD SessionOptions.usual.maxDistance
        maxSuggestions := inForce.maxSuggestions.getD SessionOptions.usual.maxSuggestions
        cacheSize := (inForce.cacheSize.map (min · ResultCache.maxSize)).getD
          SessionOptions.usual.cacheSize }
    checks := .ofSize 0
    suggestions := .ofSize 0 }

/-- A request is among those of what is in force if it gives what is in force. -/
theorem mem_requests {inForce : InForce} {request : Request} :
    request ∈ inForce.requests ↔ match request with
      | .setAffix text => inForce.affix = some text
      | .setDictionary text => inForce.dictionary = some text
      | .setFrequencies text => inForce.frequencies = some text
      | .setNormalization text => inForce.normalization = some text
      | .setSources sources => inForce.sources = some sources
      | .setMaxDistance distance => inForce.maxDistance = some distance
      | .setMaxSuggestions count => inForce.maxSuggestions = some count
      | .setCacheSize size => inForce.cacheSize = some size
      | .ask _ => False := by
  cases request <;> simp [requests, files, choices]

/-- The requests of what is in force can be made in either order. -/
theorem record_comm {inForce : InForce} {first second : Request}
    (hfirst : first ∈ inForce.requests) (hsecond : second ∈ inForce.requests) (held : InForce) :
    (held.record first).record second = (held.record second).record first := by
  rw [mem_requests] at hfirst hsecond
  cases first <;> cases second <;> grind [record]

/-- Giving the files in force puts them in force. -/
theorem foldl_record_files {inForce : InForce}
    (hcompiles : ∀ text, inForce.affix = some text → compiles text = true) :
    inForce.files.foldl record nothing =
      { nothing with
        affix := inForce.affix
        dictionary := inForce.dictionary
        frequencies := inForce.frequencies
        normalization := inForce.normalization } := by
  obtain ⟨affix, dictionary, frequencies, normalization, _, _, _, _⟩ := inForce
  cases affix with
  | none => cases dictionary <;> cases frequencies <;> cases normalization <;> rfl
  | some text =>
    have hread : record nothing (.setAffix text) = { nothing with affix := some text } :=
      if_pos (hcompiles text rfl)
    simp only [files, List.append_assoc, Option.map_some, Option.toList_some,
      List.cons_append, List.foldl_cons, hread]
    cases dictionary <;> cases frequencies <;> cases normalization <;> rfl

/-- Making the choices in force puts them in force. -/
theorem foldl_record_choices (inForce held : InForce) :
    inForce.choices.foldl record held =
      { held with
        sources := inForce.sources.or held.sources
        maxDistance := inForce.maxDistance.or held.maxDistance
        maxSuggestions := inForce.maxSuggestions.or held.maxSuggestions
        cacheSize := inForce.cacheSize.or held.cacheSize } := by
  obtain ⟨_, _, _, _, sources, maxDistance, maxSuggestions, cacheSize⟩ := inForce
  cases sources <;> cases maxDistance <;> cases maxSuggestions <;> cases cacheSize <;> rfl

/-- Giving what is in force, in any order, puts just that in force. -/
theorem after_perm_requests {inForce : InForce} {setup : List Request}
    (hcompiles : ∀ text, inForce.affix = some text → compiles text = true)
    (hsetup : setup.Perm inForce.requests) : after setup = inForce := by
  have hordered : after setup = after inForce.requests := by
    refine List.Perm.foldl_eq' hsetup ?_ nothing
    intro first hfirst second hsecond held
    exact record_comm (hsetup.subset hfirst) (hsetup.subset hsecond) held
  rw [hordered, after, requests, List.foldl_append, foldl_record_files hcompiles,
    foldl_record_choices]
  simp [nothing]

/-- Recording a request keeps to affix files that can be read. -/
theorem compiles_record {inForce : InForce} {request : Request}
    (hcompiles : ∀ text, inForce.affix = some text → compiles text = true) (text : Text)
    (haffix : (inForce.record request).affix = some text) : compiles text = true := by
  cases request with
  | setAffix given =>
    rw [record] at haffix
    split at haffix
    · rename_i hgiven
      cases haffix
      exact hgiven
    · exact hcompiles text haffix
  | _ => exact hcompiles text haffix

/-- An affix file in force can be read. -/
theorem compiles_after {history : List Request} {text : Text}
    (haffix : (after history).affix = some text) : compiles text = true := by
  suffices ∀ held : InForce, (∀ text, held.affix = some text → compiles text = true) →
      ∀ text, (history.foldl record held).affix = some text → compiles text = true from
    this nothing (fun _ hnone => nomatch hnone) text haffix
  clear haffix text
  induction history with
  | nil => exact fun _ hcompiles => hcompiles
  | cons request rest ih =>
    intro held hcompiles
    exact ih (held.record request) fun text => compiles_record hcompiles text

/-- An affix file is in force once one that can be read has been given. -/
theorem isSome_affix_foldl (held : InForce) (history : List Request) :
    (history.foldl record held).affix.isSome =
      (held.affix.isSome || history.any Request.givesAffix) := by
  induction history generalizing held with
  | nil => simp
  | cons request rest ih =>
    rw [List.foldl_cons, ih, List.any_cons, ← Bool.or_assoc]
    congr 1
    cases request with
    | setAffix text =>
      rw [record, Request.givesAffix]
      split <;> simp_all
    | _ => simp [record, Request.givesAffix]

/-- A stem list is in force once one has been given. -/
theorem isSome_dictionary_foldl (held : InForce) (history : List Request) :
    (history.foldl record held).dictionary.isSome =
      (held.dictionary.isSome || history.any Request.givesDictionary) := by
  induction history generalizing held with
  | nil => simp
  | cons request rest ih =>
    rw [List.foldl_cons, ih, List.any_cons, ← Bool.or_assoc]
    congr 1
    cases request with
    | setAffix text =>
      rw [record]
      split <;> simp [Request.givesDictionary]
    | _ => simp [record, Request.givesDictionary]

end InForce

namespace Stock

/-- Linking keeps the grammar given. -/
@[simp] theorem grammar?_link (grammar : Option Grammar) (dictionary : Option Dictionary) :
    (link grammar dictionary).value.grammar? = grammar := by
  cases grammar <;> cases dictionary <;> rfl

/-- Linking keeps the stem list given. -/
@[simp] theorem dictionary?_link (grammar : Option Grammar) (dictionary : Option Dictionary) :
    (link grammar dictionary).value.dictionary? = dictionary := by
  cases grammar <;> cases dictionary <;> rfl

/-- There is a lexicon as soon as both parts are given, and not before. -/
theorem isSome_lexicon?_link (grammar : Option Grammar) (dictionary : Option Dictionary) :
    (link grammar dictionary).value.lexicon?.isSome = (grammar.isSome && dictionary.isSome) := by
  cases grammar <;> cases dictionary <;> rfl

/-- The grammar in a stock is that of its lexicon. -/
theorem grammar?_of_lexicon? {stock : Stock} {lexicon : Lexicon}
    (hstock : stock.lexicon? = some lexicon) : stock.grammar? = some lexicon.grammar := by
  cases stock <;> cases hstock
  rfl

end Stock

namespace Session

/-- Parts given anew are linked with the parts that are there. -/
theorem inputs_restock {session : Session} {inForce : InForce}
    (hinputs : session.inputs = inForce.session) (grammar : Option Grammar)
    (dictionary : Option Dictionary) :
    (session.restock grammar dictionary).value.inputs =
      { inForce.session with stock := (Stock.link grammar dictionary).value } := by
  rw [← hinputs]
  rfl

/-- The grammar in the stock is the one in force. -/
theorem grammar?_stock {session : Session} {inForce : InForce}
    (hinputs : session.inputs = inForce.session) : session.stock.grammar? = inForce.grammar? := by
  have hstock : session.inputs.stock.grammar? = inForce.session.stock.grammar? := by rw [hinputs]
  exact hstock.trans (Stock.grammar?_link _ _)

/-- The stem list in the stock is the one in force. -/
theorem dictionary?_stock {session : Session} {inForce : InForce}
    (hinputs : session.inputs = inForce.session) :
    session.stock.dictionary? = inForce.dictionary? := by
  have hstock : session.inputs.stock.dictionary? = inForce.session.stock.dictionary? := by
    rw [hinputs]
  exact hstock.trans (Stock.dictionary?_link _ _)

/-- An affix file that can be read is linked with the stem list in the stock. -/
theorem perform_setAffix_of_ok {session : Session} {text : Text} {grammar : Grammar}
    (hread : (Grammar.read text).value = .ok grammar) :
    session.perform (.setAffix text) =
      (session.restock (some grammar) session.stock.dictionary?).value := by
  simp only [perform, setAffix, Logged.value_bind]
  split
  · rename_i next hnext
    split at hnext
    · cases hnext
    · rename_i other hother
      rw [hread] at hother
      cases hother
      exact (Except.ok.inj hnext).symm
  · rename_i error herror
    split at herror
    · rename_i block hblock
      rw [hread] at hblock
      cases hblock
    · cases herror

/-- A new session that is given a readable affix file and then a stem list has the lexicon of both,
no rules of normalization, and looks for corrections in the usual way. -/
theorem run_new_pair {affix : Text} {grammar : Grammar}
    (hread : (Grammar.read affix).value = .ok grammar) (dictionary : Text) :
    (new.run [.setAffix affix, .setDictionary dictionary]).lexicon =
        .ok (Lexicon.build grammar (Dictionary.read dictionary).value).value ∧
      (new.run [.setAffix affix, .setDictionary dictionary]).normalization = [] ∧
      (new.run [.setAffix affix, .setDictionary dictionary]).rankingOptions =
        new.rankingOptions := by
  rw [run_cons, perform_setAffix_of_ok hread]
  exact ⟨rfl, rfl, rfl⟩

/-- An affix file that cannot be read changes nothing. -/
theorem perform_setAffix_of_error {session : Session} {text : Text} {block : TruncatedBlock}
    (hread : (Grammar.read text).value = .error block) :
    session.perform (.setAffix text) = session := by
  simp only [perform, setAffix, Logged.value_bind]
  split
  · rename_i next hnext
    split at hnext
    · cases hnext
    · rename_i grammar hgrammar
      rw [hread] at hgrammar
      cases hgrammar
  · rfl

/-- One request changes the inputs of a session just as it changes what is in force. -/
theorem inputs_perform {session : Session} {inForce : InForce} (hcurrent : ResultsCurrent session)
    (hinputs : session.inputs = inForce.session) (request : Request) :
    (session.perform request).inputs = (inForce.record request).session := by
  cases request with
  | setAffix text =>
    cases hread : (Grammar.read text).value with
    | error block =>
      rw [perform_setAffix_of_error hread, InForce.record, compiles, hread]
      exact hinputs
    | ok grammar =>
      rw [perform_setAffix_of_ok hread, inputs_restock hinputs, dictionary?_stock hinputs,
        InForce.record, compiles, hread]
      simp only [InForce.session, InForce.grammar?, Except.toBool, ↓reduceIte, Option.bind_some,
        hread]
      rfl
  | setDictionary text =>
    refine (inputs_restock hinputs session.stock.grammar? _).trans ?_
    rw [grammar?_stock hinputs]
    rfl
  | setFrequencies text =>
    change { session.inputs with frequencies := (Frequencies.read text).value } = _
    rw [hinputs]
    rfl
  | setNormalization text =>
    change { session.inputs with normalization := (NormalizationRule.readAll text).value } = _
    rw [hinputs]
    rfl
  | setSources sources =>
    change { session.inputs with sources := sources } = _
    rw [hinputs]
    rfl
  | setMaxDistance distance =>
    change { session.inputs with
      options := { session.inputs.options with maxDistance := distance } } = _
    rw [hinputs]
    rfl
  | setMaxSuggestions count =>
    change { session.inputs with
      options := { session.inputs.options with maxSuggestions := count } } = _
    rw [hinputs]
    rfl
  | setCacheSize size =>
    change { session.inputs with
      options := { session.inputs.options with cacheSize := min size ResultCache.maxSize } } = _
    rw [hinputs]
    rfl
  | ask question => exact (ask_fst hcurrent question).1.trans hinputs

/-- After any run the inputs of a session are what is in force. -/
theorem inputs_run {session : Session} {inForce : InForce} (hcurrent : ResultsCurrent session)
    (hinputs : session.inputs = inForce.session) (history : List Request) :
    (session.run history).inputs = (history.foldl InForce.record inForce).session := by
  induction history generalizing session inForce with
  | nil => exact hinputs
  | cons request rest ih =>
    exact ih (resultsCurrent_perform hcurrent request) (inputs_perform hcurrent hinputs request)

/-- After any requests to a new session its inputs are what is in force. -/
theorem inputs_run_new (history : List Request) :
    (new.run history).inputs = (InForce.after history).session :=
  inputs_run resultsCurrent_new rfl history

/-- The grammar of a loaded session was read from an affix file. -/
theorem exists_read_of_lexicon {history : List Request} {lexicon : Lexicon}
    (hlexicon : (new.run history).lexicon = .ok lexicon) :
    ∃ affix, (Grammar.read affix).value = .ok lexicon.grammar := by
  have hheld := Stock.grammar?_of_lexicon? (lexicon_eq_ok_iff.mp hlexicon)
  rw [grammar?_stock (inputs_run_new history), InForce.grammar?, Option.bind_eq_some_iff] at hheld
  obtain ⟨affix, -, hread⟩ := hheld
  refine ⟨affix, ?_⟩
  cases hgrammar : (Grammar.read affix).value with
  | error block => simp [hgrammar, Except.toOption] at hread
  | ok grammar => simpa [hgrammar, Except.toOption] using hread

/-- A session can answer once it has been given a readable affix file and a stem list. -/
theorem isLoaded_run_new (history : List Request) :
    (new.run history).isLoaded =
      (history.any Request.givesAffix && history.any Request.givesDictionary) := by
  have hgrammar : (InForce.after history).grammar?.isSome =
      (InForce.after history).affix.isSome := by
    cases haffix : (InForce.after history).affix with
    | none => simp [InForce.grammar?, haffix]
    | some text =>
      have hread := InForce.compiles_after haffix
      rw [compiles] at hread
      cases hgrammar : (Grammar.read text).value with
      | error block => simp [hgrammar, Except.toBool] at hread
      | ok grammar => simp [InForce.grammar?, haffix, hgrammar, Except.toOption]
  have hdictionary : (InForce.after history).dictionary?.isSome =
      (InForce.after history).dictionary.isSome := Option.isSome_map
  have haffixGiven := InForce.isSome_affix_foldl .nothing history
  have hdictionaryGiven := InForce.isSome_dictionary_foldl .nothing history
  simp only [InForce.nothing, Option.isSome_none, Bool.false_or] at haffixGiven hdictionaryGiven
  rw [← haffixGiven, ← hdictionaryGiven]
  refine Eq.trans ?_ (congrArg₂ (· && ·) hgrammar hdictionary)
  rw [← Stock.isSome_lexicon?_link]
  exact congrArg (fun session : Session => session.isLoaded) (inputs_run_new history)

/-- Requests in between that leave what is in force as it is do not change later answers. -/
theorem answer_run_of_record_eq {before after : List Request} {request : Request}
    (hrecord : (InForce.after before).record request = InForce.after before)
    (question : Question) :
    (new.run (before ++ request :: after)).answer question =
      (new.run (before ++ after)).answer question := by
  refine answer_eq_of_inputs_eq (resultsCurrent_run resultsCurrent_new _)
    (resultsCurrent_run resultsCurrent_new _) ?_ question
  rw [inputs_run_new, inputs_run_new]
  have hsame : (InForce.after (before ++ request :: after)) = InForce.after (before ++ after) := by
    rw [InForce.after, List.foldl_append, List.foldl_cons, InForce.after, List.foldl_append]
    exact congrArg (after.foldl InForce.record) hrecord
  rw [hsame]

/-- A session answers like a new one that was given just what is in force, in any order, and was
never asked.  It can answer once it has been given a readable affix file and a stem list, and an
affix file that cannot be read is as good as not given. -/
theorem answer_run_eq_answer_setup (history setup : List Request)
    (hsetup : setup.Perm (InForce.after history).requests) :
    (∀ question, (new.run history).answer question = (new.run setup).answer question) ∧
      (new.run history).isLoaded =
        (history.any Request.givesAffix && history.any Request.givesDictionary) ∧
      ∀ before after text, history = before ++ .setAffix text :: after → compiles text = false →
        ∀ question,
          (new.run history).answer question = (new.run (before ++ after)).answer question := by
  refine ⟨fun question => ?_, isLoaded_run_new history, ?_⟩
  · refine answer_eq_of_inputs_eq (resultsCurrent_run resultsCurrent_new history)
      (resultsCurrent_run resultsCurrent_new setup) ?_ question
    rw [inputs_run_new, inputs_run_new,
      InForce.after_perm_requests (fun _ haffix => InForce.compiles_after haffix) hsetup]
  · intro before after text hhistory hfails question
    rw [hhistory]
    refine answer_run_of_record_eq ?_ question
    rw [InForce.record, hfails]
    rfl

/-- A session that was asked too early, was given a truncated affix file, and had its stem list
replaced after an answer was stored. -/
theorem answer_run_eq_answer_setup_replaced :
    List.Perm
        [.setMaxDistance 1, .setDictionary "dog/AB\n".toList,
          .setAffix "SFX AB Y 1\nSFX AB 0 s .\n".toList]
        (InForce.after
          [.setDictionary "cat/AB\n".toList, .ask (.check "cats".toList),
            .setAffix "SFX AB Y 1\nSFX AB 0 s .\n".toList, .ask (.check "cats".toList),
            .setAffix "SFX AB Y 4\n".toList, .setDictionary "dog/AB\n".toList,
            .setMaxDistance 1]).requests ∧
      (new.run
          [.setDictionary "cat/AB\n".toList, .ask (.check "cats".toList),
            .setAffix "SFX AB Y 1\nSFX AB 0 s .\n".toList, .ask (.check "cats".toList),
            .setAffix "SFX AB Y 4\n".toList, .setDictionary "dog/AB\n".toList,
            .setMaxDistance 1]).answer (.suggest "dgs".toList 5) =
        (new.run
          [.setMaxDistance 1, .setDictionary "dog/AB\n".toList,
            .setAffix "SFX AB Y 1\nSFX AB 0 s .\n".toList]).answer (.suggest "dgs".toList 5) := by
  have hsetup : List.Perm
      [.setMaxDistance 1, .setDictionary "dog/AB\n".toList,
        .setAffix "SFX AB Y 1\nSFX AB 0 s .\n".toList]
      (InForce.after
        [.setDictionary "cat/AB\n".toList, .ask (.check "cats".toList),
          .setAffix "SFX AB Y 1\nSFX AB 0 s .\n".toList, .ask (.check "cats".toList),
          .setAffix "SFX AB Y 4\n".toList, .setDictionary "dog/AB\n".toList,
          .setMaxDistance 1]).requests := by
    decide +kernel
  exact ⟨hsetup, (answer_run_eq_answer_setup _ _ hsetup).1 _⟩

end Session

end Orthography
