import Orthography.CommandLine.Files

/-!
# Tools

Three tools answer from a dictionary: one checks words, one suggests corrections, and one lists the
words that stems give.  A run is a function of the arguments, of the surroundings and of what stands
on standard input.
-/

namespace Orthography.CommandLine

/-- The tools. -/
inductive Tool where
  | check
  | suggest
  | unmunch
  deriving DecidableEq, Repr

/-- What a run leaves behind. -/
structure Outcome where
  code : Nat
  output : String
  errors : String
  deriving DecidableEq, Repr

/-- The tool with a name. -/
def Tool.ofName? : String → Option Tool
  | "check" => some check
  | "suggest" => some suggest
  | "unmunch" => some unmunch
  | _ => none

/-- The lines of a help text that all tools share. -/
def sharedOptions (width : Nat) : List String :=
  let optionLine (option meaning : String) : String :=
    "  " ++ option ++ String.ofList (List.replicate (width - option.length) ' ') ++ meaning
  [optionLine "-d, --dict-path PATH" "Directory holding LANG.aff and LANG.dic",
    optionLine "-l, --lang LANG" s!"Dictionary name (default: {usualLanguage.string})"]

/-- The help text of a tool, line by line. -/
def Tool.help : Tool → List String
  | check => [
      "typo-check: Check spelling of words from stdin.",
      "",
      "Usage: typo-check [-d DICT_PATH] [-l LANG] [OPTIONS]",
      "",
      "Reads words from stdin (one per line). Prints:",
      "  C: word    (correct)",
      "  W: word    (misspelled)",
      "",
      "Options:"] ++ sharedOptions 23 ++ [
      "  -s, --suggest          Also print suggestions for misspelled words",
      "  -v, --verbose          More log output (repeatable)",
      "  -q, --quiet            Only log errors",
      "  -h, --help             Print this help"]
  | suggest => [
      "typo-suggest: Generate spelling suggestions.",
      "",
      "Usage: typo-suggest [-d DICT_PATH] [-l LANG] [OPTIONS] [WORD...]",
      "",
      "If WORD arguments are given, suggests for each word.",
      "Otherwise reads words from stdin (one per line).",
      "",
      "Options:"] ++ sharedOptions 25 ++ [
      "  -n, --max-suggestions N  Maximum number of suggestions (default: 5)",
      "  -e, --max-distance N     Maximum edit distance (default: 2)",
      "  --scores                 Print distance and frequency weight",
      "  -h, --help               Print this help"]
  | unmunch => [
      "typo-unmunch: Expand a dictionary into every derived form.",
      "",
      "Usage: typo-unmunch [-d DICT_PATH] [-l LANG] [OPTIONS] [WORD...]",
      "",
      "Options:"] ++ sharedOptions 23 ++ [
      "  --group                Print one line per stem",
      "  -h, --help             Print this help"]

/-- Lines of output, each with its line feed. -/
def unlines (lines : List String) : String := String.join (lines.map (· ++ "\n"))

/-- How much of the journal is shown: more for every `-v`, and errors alone with `-q`. -/
def journalLevel (args : List Text) : Severity :=
  let verbose := args.countP ["-v".toList, "--verbose".toList].contains
  if mentions ["-q".toList, "--quiet".toList] args then .error
  else match verbose with
    | 0 => .warn
    | 1 => .info
    | 2 => .debug
    | _ => .trace

/-- The arguments without those that concern the journal. -/
def dropJournalArgs (args : List Text) : List Text :=
  let concerned := ["-v".toList, "--verbose".toList, "-q".toList, "--quiet".toList]
  args.filter fun arg => !concerned.contains arg

/-- The records that are shown, line by line. -/
def showRecords (level : Severity) (records : List Record) : List String :=
  (records.filter (·.reaches level)).map fun record =>
    s!"[{record.severity.name}] {record.text}"

/-- The outcome of a run that gives up. -/
def Failure.outcome (failure : Failure) (shown : List String) : Outcome :=
  ⟨1, "", unlines (shown ++ [s!"error: {failure.message}"])⟩

/-- The words on standard input, one a line, without blanks around them and without blank lines, up
to a line that is not text; and whether there is such a line. -/
def inputWords (input : List UInt8) : List Text × Bool :=
  let lines := (Text.linesBy 10 13 input).map fun line => decode? ⟨line.toArray⟩
  let words := (lines.takeWhile (·.isSome)).filterMap fun line => line.map Text.trim
  (words.filter (!·.isEmpty), lines.any (·.isNone))

/-- What has been done with some words: the session, the lines printed and the records made, both
with the last first. -/
structure Progress where
  session : Session
  printed : List String
  records : List Record

/-- Goes on with one word. -/
def Progress.next (progress : Progress) (answer : Session → Text → Logged (Session × List String))
    (word : Text) : Progress :=
  let logged := answer progress.session word
  ⟨logged.value.1, logged.value.2.reverseAux progress.printed,
    logged.records.reverseAux progress.records⟩

/-- The lines printed for words, one after the other in one session. -/
def answerAll (session : Session) (answer : Session → Text → Logged (Session × List String))
    (words : List Text) : Logged (List String) :=
  let start : Progress := ⟨session, [], []⟩
  let progress := words.foldl (fun progress word => progress.next answer word) start
  .noting progress.records.reverse progress.printed.reverse

/-- Checks one word: the verdict and, if they are asked for, the suggestions. -/
def checkLine (withSuggestions : Bool) (limit : Nat) (session : Session) (word : Text) :
    Logged (Session × List String) := do
  let (session, known) ← session.check word
  match known with
  | .ok true => return (session, [s!"C: {word.string}"])
  | _ =>
    let verdict := s!"W: {word.string}"
    if withSuggestions then
      let (session, found) ← session.suggest word limit
      match found with
      | .ok suggestions =>
        return (session, verdict :: suggestions.map fun s => s!"S: {s.word.string}")
      | .error _ => return (session, [verdict])
    else return (session, [verdict])

/-- A suggestion as it is printed, with its distance and weight if they are asked for. -/
def suggestionLine (scores : Bool) (suggestion : Suggestion) : String :=
  let word := suggestion.word.string
  if scores then s!"  {word}\t{suggestion.distance}\t{suggestion.weight.write}" else s!"  {word}"

/-- Suggests corrections for one word. -/
def suggestLines (scores : Bool) (session : Session) (word : Text) :
    Logged (Session × List String) := do
  let (session, known) ← session.check word
  match known with
  | .ok true => return (session, [s!"{word.string} (correct)"])
  | _ =>
    let (session, found) ← session.suggest word session.options.maxSuggestions
    match found with
    | .ok (first :: others) =>
      return (session, s!"{word.string}:" :: (first :: others).map (suggestionLine scores))
    | _ => return (session, [s!"{word.string}: (no suggestions)"])

/-- The words that the stems give, one a line or one stem a line, and the summary. -/
def unmunchLines (group : Bool) (chosen : List Text) (lexicon : Lexicon) :
    Logged (List String) := do
  let entries := lexicon.dictionary.entries.filter fun entry =>
    chosen.isEmpty || chosen.contains entry.stem
  let expanded ← Logged.gather (entries.map fun entry =>
    (fun forms => some (entry.stem, forms)) <$> lexicon.expand entry)
  let total := expanded.foldl (fun count (_, forms) => count + forms.length) 0
  Logged.note .info s!"{total} forms from {lexicon.dictionary.entries.length} stems"
  return expanded.flatMap fun (stem, forms) =>
    if group then [stem.string ++ ": " ++ String.intercalate " " (forms.map Text.string)]
    else forms.map Text.string

/-- What a tool prints from a loaded session, and whether it met a line that is not text. -/
def Tool.answer (tool : Tool) (args : List Text) (session : Session) (input : List UInt8) :
    Logged (List String × Bool) :=
  match tool with
  | check =>
    let (words, broken) := inputWords input
    let withSuggestions := mentions ["-s".toList, "--suggest".toList] args
    (·, broken) <$>
      answerAll session (checkLine withSuggestions session.options.maxSuggestions) words
  | suggest =>
    let scores := mentions ["--scores".toList] args
    let (words, broken) := match operands args with
      | [] => inputWords input
      | words => (words, false)
    (·, broken) <$> answerAll session (suggestLines scores) words
  | unmunch =>
    match session.lexicon with
    | .ok lexicon =>
      (·, false) <$> unmunchLines (mentions ["--group".toList] args) (operands args) lexicon
    | .error _ => pure ([], false)

/-- What the options of a run ask for. -/
structure Request where
  dictionary : Option Path
  language : Text
  help : Bool
  maxSuggestions : Option Nat
  maxDistance : Option Nat
  rest : List Text
  deriving DecidableEq, Repr

/-- Reads the options of a tool.  Those that only `suggest` has do not count when help is asked
for. -/
def Tool.request (tool : Tool) (args : List Text) : Except Failure Request := do
  let (dictionary, args) ← takeDictionaryPath args
  let (language, args) ← takeLanguage args
  if wantsHelp args then return ⟨dictionary, language, true, none, none, args⟩
  match tool with
  | suggest =>
    let countName := "--max-suggestions".toList
    let distanceName := "--max-distance".toList
    let (count, args) ← takeOption ['-', 'n'] countName args
    let (distance, args) ← takeOption ['-', 'e'] distanceName args
    let count ← readNumber countName count
    let distance ← readNumber distanceName distance
    return ⟨dictionary, language, false, count, distance, args⟩
  | check | unmunch => return ⟨dictionary, language, false, none, none, args⟩

/-- A session with the options of a request. -/
def Request.apply (request : Request) (session : Session) : Session :=
  let session := match request.maxSuggestions with
    | some count => session.setMaxSuggestions count
    | none => session
  match request.maxDistance with
  | some distance => session.setMaxDistance distance
  | none => session

/-- Runs a tool. -/
def Tool.run (tool : Tool) (surroundings : Surroundings) (input : List UInt8) (args : List Text) :
    Outcome :=
  match tool.request args with
  | .error failure => failure.outcome []
  | .ok request =>
    if request.help then ⟨0, unlines tool.help, ""⟩
    else
      let level := journalLevel request.rest
      let loaded := loadDictionary surroundings request.dictionary request.language
      match loaded.value with
      | .error failure => failure.outcome (showRecords level loaded.records)
      | .ok session =>
        let answer := tool.answer (dropJournalArgs request.rest) (request.apply session) input
        let broken := if answer.value.2 then
          ["error reading stdin: stream did not contain valid UTF-8"] else []
        ⟨0, unlines answer.value.1,
          unlines (showRecords level (loaded.records ++ answer.records) ++ broken)⟩

/-- Whether a run reads standard input. -/
def Tool.readsInput (tool : Tool) (args : List Text) : Bool :=
  match tool.request args with
  | .error _ => false
  | .ok request => !request.help && match tool with
    | check => true
    | suggest => (operands (dropJournalArgs request.rest)).isEmpty
    | unmunch => false

/-- The paths of all files that a run may read. -/
def Tool.paths (tool : Tool) (surroundings : Surroundings) (args : List Text) : List Path :=
  match tool.request args with
  | .error _ => []
  | .ok request =>
    (candidateDirectories (searchRoots surroundings request.dictionary) request.language).flatMap
      fun directory => (DictionaryFiles.below directory request.language).all

end Orthography.CommandLine
