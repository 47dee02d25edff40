import Orthography.CommandLine.Tool
import Orthography.Proofs.CommandLine.Encoded
import Orthography.Proofs.Session.Run

/-!
# Line by line

The tools that read words keep one session for all of them, and so its caches.  The results that are
held in these do not change an answer (`Consults.steady`), so what is printed for a word depends on
the word and on the inputs of the session alone, and what is printed for two texts, one behind the
other, is what is printed for the one and then for the other (`output_run_append`).
-/

namespace Orthography

namespace Session

variable {session : Session}

/-- The inputs of a session hold no results. -/
theorem resultsCurrent_inputs (session : Session) : ResultsCurrent session.inputs :=
  resultsCurrent_of_empty (ResultCache.get?_ofSize 0) (ResultCache.get?_ofSize 0)

/-- A check says what it would say without the results that are held. -/
theorem check_inputs (hcurrent : ResultsCurrent session) (word : Text) :
    (session.check word).value.2 = (session.inputs.check word).value.2 := by
  rw [check_snd hcurrent, check_snd session.resultsCurrent_inputs]
  rfl

/-- The suggestions are those that there would be without the results that are held. -/
theorem suggest_inputs (hcurrent : ResultsCurrent session) (word : Text) (limit : Nat) :
    (session.suggest word limit).value.2 = (session.inputs.suggest word limit).value.2 := by
  rw [suggest_snd hcurrent, suggest_snd session.resultsCurrent_inputs]
  rfl

/-- The suggestions behind a check are those in front of it. -/
theorem suggest_check (hcurrent : ResultsCurrent session) (word : Text) (limit : Nat) :
    ((session.check word).value.1.suggest word limit).value.2 =
      (session.inputs.suggest word limit).value.2 := by
  obtain ⟨hinputs, hchecked⟩ := check_fst hcurrent word
  rw [suggest_inputs hchecked, hinputs]

end Session

namespace CommandLine

open Session

/-- Answers to words that do not depend on the results that a session holds, and leave its inputs as
they are. -/
structure Steady (answer : Session → Text → Logged (Session × List String)) : Prop where
  lines : ∀ session word, ResultsCurrent session →
    (answer session word).value.2 = (answer session.inputs word).value.2
  inputs : ∀ session word, ResultsCurrent session →
    (answer session word).value.1.inputs = session.inputs
  current : ∀ session word, ResultsCurrent session →
    ResultsCurrent (answer session word).value.1

/-- An answer that checks a word and perhaps looks for suggestions then, and prints lines that
depend on nothing but the word and what was found. -/
structure Consults (answer : Session → Text → Logged (Session × List String))
    (limit : Session → Nat)
    (lines : Text → Except SessionError Bool → Except SessionError (List Suggestion) →
      List String) : Prop where
  step : ∀ session word checked known suggested found,
    (session.check word).value = (checked, known) →
      (checked.suggest word (limit checked)).value = (suggested, found) →
        (answer session word).value.2 = lines word known found ∧
          ((answer session word).value.1 = checked ∨ (answer session word).value.1 = suggested)
  limit : ∀ session, limit session = limit session.inputs

/-- What is found by checking a word and looking for suggestions does not depend on the results that
a session holds. -/
theorem Consults.steady {answer : Session → Text → Logged (Session × List String)}
    {limit : Session → Nat}
    {lines : Text → Except SessionError Bool → Except SessionError (List Suggestion) →
      List String} (hconsults : Consults answer limit lines) : Steady answer where
  lines session word hcurrent := by
    have hlimit (held : Session) (hheld : held.inputs = session.inputs) :
        limit held = limit session.inputs := by rw [hconsults.limit, hheld]
    rw [(hconsults.step session word _ _ _ _ rfl rfl).1,
      (hconsults.step session.inputs word _ _ _ _ rfl rfl).1, check_inputs hcurrent,
      hlimit _ (check_fst hcurrent word).1, suggest_check hcurrent,
      hlimit _ (check_fst session.resultsCurrent_inputs word).1,
      suggest_check session.resultsCurrent_inputs]
    rfl
  inputs session word hcurrent := by
    obtain ⟨hinputs, hchecked⟩ := check_fst hcurrent word
    rcases (hconsults.step session word _ _ _ _ rfl rfl).2 with hnext | hnext
    · rw [hnext, hinputs]
    · rw [hnext, (suggest_fst hchecked word _).1, hinputs]
  current session word hcurrent := by
    have hchecked := (check_fst hcurrent word).2
    rcases (hconsults.step session word _ _ _ _ rfl rfl).2 with hnext | hnext
    · exact hnext ▸ hchecked
    · exact hnext ▸ (suggest_fst hchecked word _).2

/-- The lines that are printed for a word that is checked. -/
def verdictLines (withSuggestions : Bool) (word : Text) :
    Except SessionError Bool → Except SessionError (List Suggestion) → List String
  | .ok true, _ => [s!"C: {word.string}"]
  | _, found =>
    s!"W: {word.string}" ::
      if withSuggestions then
        (found.toOption.getD []).map fun suggestion => s!"S: {suggestion.word.string}"
      else []

/-- The lines that are printed for a word that is corrected. -/
def correctionLines (scores : Bool) (word : Text) :
    Except SessionError Bool → Except SessionError (List Suggestion) → List String
  | .ok true, _ => [s!"{word.string} (correct)"]
  | _, .ok (first :: others) =>
    s!"{word.string}:" :: (first :: others).map (suggestionLine scores)
  | _, _ => [s!"{word.string}: (no suggestions)"]

/-- Checking a word prints the verdict and the suggestions that were found. -/
theorem consults_checkLine (withSuggestions : Bool) (limit : Nat) :
    Consults (checkLine withSuggestions limit) (fun _ => limit) (verdictLines withSuggestions) where
  step session word checked known suggested found hchecked hsuggested := by
    unfold checkLine
    rw [Logged.value_bind, hchecked]
    rcases known with fault | (_ | _)
    case ok.true => exact ⟨rfl, .inl rfl⟩
    all_goals
      cases withSuggestions with
      | false => exact ⟨rfl, .inl rfl⟩
      | true =>
          simp only [↓reduceIte, Logged.value_bind, hsuggested]
          cases found <;> exact ⟨rfl, .inr rfl⟩
  limit _ := rfl

/-- Correcting a word looks for as many suggestions as the session has been told to give. -/
theorem consults_suggestLines (scores : Bool) :
    Consults (suggestLines scores) (·.options.maxSuggestions) (correctionLines scores) where
  step session word checked known suggested found hchecked hsuggested := by
    unfold suggestLines
    rw [Logged.value_bind, hchecked]
    rcases known with fault | (_ | _)
    case ok.true => exact ⟨rfl, .inl rfl⟩
    all_goals
      simp only [Logged.value_bind, hsuggested]
      rcases found with fault | (_ | _) <;> exact ⟨rfl, .inr rfl⟩
  limit _ := rfl

/-! ### Answers to all words -/

/-- What has been printed after some words: what was printed before, and the answer to each of them
that the session would give without its results. -/
theorem Steady.printed_foldl {answer : Session → Text → Logged (Session × List String)}
    (hsteady : Steady answer) {progress : Progress} (hcurrent : ResultsCurrent progress.session)
    (words : List Text) :
    (words.foldl (fun progress word => progress.next answer word) progress).printed.reverse =
      progress.printed.reverse ++
        words.flatMap fun word => (answer progress.session.inputs word).value.2 := by
  induction words generalizing progress with
  | nil => simp
  | cons word words ih =>
      -- the session that this word leaves, and that answers the others, has the same inputs
      have hinputs := hsteady.inputs progress.session word hcurrent
      rw [List.foldl_cons, ih (hsteady.current progress.session word hcurrent), List.flatMap_cons,
        ← hsteady.lines progress.session word hcurrent]
      simp [Progress.next, hinputs, List.reverseAux_eq]

/-- Words are answered one by one. -/
theorem Steady.value_answerAll {answer : Session → Text → Logged (Session × List String)}
    (hsteady : Steady answer) {session : Session} (hcurrent : ResultsCurrent session)
    (words : List Text) :
    (answerAll session answer words).value =
      words.flatMap fun word => (answer session.inputs word).value.2 :=
  @Steady.printed_foldl answer hsteady ⟨session, [], []⟩ hcurrent words

/-- A tool that reads words answers each of them by itself. -/
theorem exists_lines_answer {tool : Tool} {args : List Text} {session : Session}
    (hcurrent : ResultsCurrent session)
    (hreads : tool = .check ∨ tool = .suggest ∧ operands args = []) :
    ∃ lines : Text → List String, ∀ input,
      (tool.answer args session input).value.1 = (inputWords input).1.flatMap lines := by
  rcases hreads with rfl | ⟨rfl, hoperands⟩
  · exact ⟨_, fun input => (consults_checkLine _ _).steady.value_answerAll hcurrent _⟩
  · have hsteady := (consults_suggestLines (mentions ["--scores".toList] args)).steady
    refine ⟨fun word =>
      (suggestLines (mentions ["--scores".toList] args) session.inputs word).value.2,
      fun input => ?_⟩
    unfold Tool.answer
    rw [hoperands]
    exact hsteady.value_answerAll hcurrent _

/-! ### Loaded sessions -/

/-- A session that was given its files at once holds no wrong results. -/
theorem resultsCurrent_load {affix stems : Text} {frequencies : Option Text} {session : Session}
    (hload : (Session.load affix stems frequencies).value = .ok session) :
    ResultsCurrent session := by
  unfold Session.load at hload
  rw [Logged.value_bind] at hload
  cases haffix : (new.setAffix affix).value with
  | error fault =>
      rw [haffix] at hload
      cases hload
  | ok given =>
      have hgiven : ResultsCurrent (new.perform (.setAffix affix)) :=
        resultsCurrent_perform resultsCurrent_new (.setAffix affix)
      rw [perform, haffix] at hgiven
      have hboth := resultsCurrent_perform hgiven (.setDictionary stems)
      rw [haffix] at hload
      cases frequencies with
      | none =>
          cases hload
          exact hboth
      | some text =>
          cases hload
          exact resultsCurrent_perform hboth (.setFrequencies text)

/-- A session with the files of a dictionary holds no wrong results. -/
theorem resultsCurrent_loadDictionary {surroundings : Surroundings} {argument : Option Path}
    {language : Text} {session : Session}
    (hload : (loadDictionary surroundings argument language).value = .ok session) :
    ResultsCurrent session := by
  unfold loadDictionary at hload
  split at hload
  · cases hload
  · rw [Logged.value_bind] at hload
    unfold loadFiles at hload
    split at hload
    · cases hload
    · rw [Logged.value_bind] at hload
      split at hload
      · cases hload
      · rename_i given hgiven
        have hcurrent := resultsCurrent_load hgiven
        split at hload
        · cases hload
        · cases hload
          exact hcurrent
        · rename_i text _
          cases hload
          exact resultsCurrent_perform hcurrent (.setNormalization text)

/-- The options of a request leave no wrong results. -/
theorem resultsCurrent_apply {session : Session} (hcurrent : ResultsCurrent session)
    (request : Request) : ResultsCurrent (request.apply session) := by
  obtain ⟨dictionary, language, help, maxSuggestions, maxDistance, rest⟩ := request
  cases maxSuggestions <;> cases maxDistance
  · exact hcurrent
  · exact resultsCurrent_perform hcurrent (.setMaxDistance _)
  · exact resultsCurrent_perform hcurrent (.setMaxSuggestions _)
  · exact resultsCurrent_perform (resultsCurrent_perform hcurrent (.setMaxSuggestions _))
      (.setMaxDistance _)

/-! ### Words on standard input -/

/-- The lines of an encoded text are all read. -/
theorem inputWords_append {first : List UInt8} {text : Text}
    (htext : decode? ⟨first.toArray⟩ = some text)
    (hends : first = [] ∨ first.getLast? = some 10) (second : List UInt8) :
    (inputWords (first ++ second)).1 =
      ((Text.lines text).map Text.trim).filter (!·.isEmpty) ++ (inputWords second).1 := by
  obtain rfl := Text.decode?_eq_some_iff.mp htext
  have hdecode (line : Text) : decode? ⟨(Text.encoded line).toArray⟩ = some line :=
    Text.decode?_eq_some_iff.mpr rfl
  have hlines : ((Text.linesBy 10 13 text.encoded).map fun line => decode? ⟨line.toArray⟩) =
      (Text.lines text).map some := by
    rw [Text.linesBy_encoded, List.map_map]
    exact List.map_congr_left fun line _ => hdecode line
  have hread : ∀ line ∈ (Text.lines text).map some, line.isSome = true := by simp
  unfold inputWords
  dsimp only
  rw [Text.linesBy_append 13 hends, List.map_append, hlines, List.takeWhile_append_of_pos hread,
    List.filterMap_append, List.filter_append, List.filterMap_map]
  congr 2
  exact congrFun List.filterMap_eq_map (Text.lines text)

/-- Lines of output follow each other. -/
theorem unlines_append (first second : List String) :
    unlines (first ++ second) = unlines first ++ unlines second := by
  rw [unlines, List.map_append, String.join_append, unlines, unlines]

/-! ### Runs -/

variable {tool : Tool} {args : List Text}

/-- A run that reads words has no other, and does not only print the help. -/
theorem exists_request_of_readsInput (hreads : tool.readsInput args = true) :
    ∃ request, tool.request args = .ok request ∧ request.help = false ∧
      (tool = .check ∨ tool = .suggest ∧ operands (dropJournalArgs request.rest) = []) := by
  unfold Tool.readsInput at hreads
  split at hreads
  · cases hreads
  · rename_i request hrequest
    rw [Bool.and_eq_true, Bool.not_eq_true'] at hreads
    refine ⟨request, hrequest, hreads.1, ?_⟩
    cases tool with
    | check => exact .inl rfl
    | suggest => exact .inr ⟨rfl, by simpa using hreads.2⟩
    | unmunch => exact absurd hreads.2 Bool.false_ne_true

/-- A run that reads words prints for each of them what it would print for that word alone. -/
theorem exists_lines_run (hreads : tool.readsInput args = true) (surroundings : Surroundings) :
    ∃ lines : Text → List String, ∀ input, (tool.run surroundings input args).output =
      unlines ((inputWords input).1.flatMap lines) := by
  obtain ⟨request, hrequest, hhelp, hwords⟩ := exists_request_of_readsInput hreads
  cases hload : (loadDictionary surroundings request.dictionary request.language).value with
  | error failure =>
      refine ⟨fun _ => [], fun input => ?_⟩
      simp only [Tool.run, hrequest, hhelp, hload, Bool.false_eq_true, ↓reduceIte, Failure.outcome]
      rw [List.flatMap_eq_nil_iff.mpr fun _ _ => rfl]
      rfl
  | ok session =>
      have hcurrent := resultsCurrent_apply (resultsCurrent_loadDictionary hload) request
      obtain ⟨lines, hlines⟩ := exists_lines_answer hcurrent hwords
      refine ⟨lines, fun input => ?_⟩
      simp only [Tool.run, hrequest, hhelp, hload, Bool.false_eq_true, ↓reduceIte]
      exact congrArg unlines (hlines input)

/-- A tool that reads words from standard input answers line by line: what it prints for a text that
is empty or ends with a line feed and for whatever follows is what it prints for the one and then
what it prints for the other.  The lines printed for a word depend on nothing but the word. -/
theorem output_run_append {surroundings : Surroundings} {first : List UInt8} {text : Text}
    (hreads : tool.readsInput args = true) (htext : decode? ⟨first.toArray⟩ = some text)
    (hends : first = [] ∨ first.getLast? = some 10) :
    (∀ second, (tool.run surroundings (first ++ second) args).output =
      (tool.run surroundings first args).output ++ (tool.run surroundings second args).output) ∧
    ∃ lines : Text → List String, ∀ input, (tool.run surroundings input args).output =
      unlines ((inputWords input).1.flatMap lines) := by
  obtain ⟨lines, hlines⟩ := exists_lines_run hreads surroundings
  refine ⟨fun second => ?_, lines, hlines⟩
  have hfirst := inputWords_append htext hends []
  rw [List.append_nil] at hfirst
  rw [hlines, hlines, hlines, inputWords_append htext hends, hfirst]
  have hnone : (inputWords []).1 = [] := rfl
  rw [hnone, List.append_nil, List.flatMap_append, unlines_append]

/-- A word of the dictionary and one that is not listed are answered, with suggestions, and answered
again behind themselves. -/
theorem output_run_append_again :
    let surroundings : Surroundings :=
      { dictionaryPath := none
        home := none
        directory := none
        content? := fun path =>
          if path = "d/en_US.aff".toList then some ⟨(Text.encoded []).toArray⟩
          else if path = "d/en_US.dic".toList then some ⟨(Text.encoded "hello\n".toList).toArray⟩
          else none }
    let checking := ["-d".toList, "d".toList, "-s".toList]
    let suggesting := ["-d".toList, "d".toList, "--scores".toList]
    let first := Text.encoded "hello\nhelo\n".toList
    Tool.check.readsInput checking = true ∧ Tool.suggest.readsInput suggesting = true ∧
      decode? ⟨first.toArray⟩ = some "hello\nhelo\n".toList ∧ first.getLast? = some 10 ∧
      (Tool.check.run surroundings first checking).output = "C: hello\nW: helo\nS: hello\n" ∧
      (Tool.check.run surroundings (first ++ first) checking).output =
        (Tool.check.run surroundings first checking).output ++
          (Tool.check.run surroundings first checking).output ∧
      (Tool.suggest.run surroundings first suggesting).output =
        "hello (correct)\nhelo:\n  hello\t1\t0\n" ∧
      (Tool.suggest.run surroundings (first ++ first) suggesting).output =
        (Tool.suggest.run surroundings first suggesting).output ++
          (Tool.suggest.run surroundings first suggesting).output := by
  intro surroundings checking suggesting first
  have hchecks : Tool.check.readsInput checking = true := by decide +kernel
  have hsuggests : Tool.suggest.readsInput suggesting = true := by decide +kernel
  have htext : decode? ⟨first.toArray⟩ = some "hello\nhelo\n".toList :=
    Text.decode?_eq_some_iff.mpr rfl
  have hends : first.getLast? = some 10 := by decide +kernel
  have hchecked : (Tool.check.run surroundings first checking).output =
      "C: hello\nW: helo\nS: hello\n" := by decide +kernel
  have hsuggested : (Tool.suggest.run surroundings first suggesting).output =
      "hello (correct)\nhelo:\n  hello\t1\t0\n" := by decide +kernel
  exact ⟨hchecks, hsuggests, htext, hends, hchecked,
    (output_run_append hchecks htext (.inr hends)).1 first, hsuggested,
    (output_run_append hsuggests htext (.inr hends)).1 first⟩

end CommandLine

end Orthography
