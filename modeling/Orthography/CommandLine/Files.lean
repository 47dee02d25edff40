import Orthography.CommandLine.Arguments
import Orthography.Session

/-!
# Files of a dictionary

A dictionary is an affix file and a stem list side by side, named for its language, perhaps with a
list of frequencies and a list of normalization rules.  Several directories are searched for it,
each as it is and for a directory named for the language in it.
-/

namespace Orthography.CommandLine

/-- The path of a file. -/
abbrev Path := Text

/-- A path below another; an absolute path stays as it is. -/
def Path.join (base below : Path) : Path :=
  if below.head? = some '/' || base.isEmpty then below
  else if base.getLast? = some '/' then base ++ below
  else base ++ '/' :: below

/-- What a run of a tool can see: the values that say where dictionaries are, the directory that it
runs in, and the content of files. -/
structure Surroundings where
  dictionaryPath : Option Text
  home : Option Text
  directory : Option Path
  /-- The content of the file at a path, if there is one. -/
  content? : Path → Option ByteArray

/-- The files of one dictionary. -/
structure DictionaryFiles where
  affix : Path
  stems : Path
  frequencies : Path
  normalization : Path
  deriving DecidableEq, Repr

/-- The files that a dictionary has if it is in a directory. -/
def DictionaryFiles.below (directory : Path) (language : Text) : DictionaryFiles :=
  { affix := Path.join directory (language ++ ".aff".toList)
    stems := Path.join directory (language ++ ".dic".toList)
    frequencies := Path.join directory "wordlist.txt".toList
    normalization := Path.join directory "prefixes.tsv".toList }

/-- All files of a dictionary. -/
def DictionaryFiles.all (files : DictionaryFiles) : List Path :=
  [files.affix, files.stems, files.frequencies, files.normalization]

/-- The directories that every system keeps dictionaries in. -/
def systemDirectories : List Path :=
  ["/usr/share/hunspell".toList, "/usr/local/share/hunspell".toList,
    "/usr/share/myspell/dicts".toList]

/-- The directories that are searched, in order: the one named in the arguments, the one named in
the surroundings, the one at home, those of the system, and those of the run. -/
def searchRoots (surroundings : Surroundings) (argument : Option Path) : List Path :=
  argument.toList ++ surroundings.dictionaryPath.toList ++
    (surroundings.home.map fun home =>
      Path.join (Path.join home ".typo".toList) "dictionaries".toList).toList ++
    systemDirectories ++
    match surroundings.directory with
    | some directory => [Path.join directory "dictionaries".toList, directory]
    | none => []

/-- The directories that a dictionary may be in. -/
def candidateDirectories (roots : List Path) (language : Text) : List Path :=
  roots.flatMap fun root => [Path.join root language, root]

/-- The directory of a dictionary: the first that has its affix file and its stem list. -/
def findDirectory (surroundings : Surroundings) (argument : Option Path) (language : Text) :
    Except Failure Path :=
  let roots := searchRoots surroundings argument
  let found := (candidateDirectories roots language).find? fun directory =>
    let files := DictionaryFiles.below directory language
    (surroundings.content? files.affix).isSome && (surroundings.content? files.stems).isSome
  match found with
  | some directory => .ok directory
  | none => .error (.notFound language roots)

/-- The text that bytes encode, if they encode one. -/
def decode? (bytes : ByteArray) : Option Text := (String.fromUTF8? bytes).map String.toList

/-- The text of a file, or none if there is no such file. -/
def readOptional (surroundings : Surroundings) (path : Path) : Except Failure (Option Text) :=
  match surroundings.content? path with
  | none => .ok none
  | some bytes =>
    match decode? bytes with
    | some text => .ok (some text)
    | none => .error (.unreadable path)

/-- The texts of the affix file, the stem list and, if there is one, the list of frequencies. -/
def readTexts (surroundings : Surroundings) (files : DictionaryFiles) :
    Except Failure (Text × Text × Option Text) := do
  let affix ← readOptional surroundings files.affix
  let stems ← readOptional surroundings files.stems
  return (affix.getD [], stems.getD [], ← readOptional surroundings files.frequencies)

/-- A session with the files of a dictionary. -/
def loadFiles (surroundings : Surroundings) (files : DictionaryFiles) :
    Logged (Except Failure Session) :=
  match readTexts surroundings files with
  | .error failure => pure (.error failure)
  | .ok (affix, stems, frequencies) => do
    match ← Session.load affix stems frequencies with
    | .error error => return .error (.unusable files.affix error.message)
    | .ok session =>
      match readOptional surroundings files.normalization with
      | .error failure => return .error failure
      | .ok none => return .ok session
      | .ok (some text) => return .ok (← session.setNormalization text)

/-- A session with the dictionary that arguments and surroundings name. -/
def loadDictionary (surroundings : Surroundings) (argument : Option Path) (language : Text) :
    Logged (Except Failure Session) :=
  match findDirectory surroundings argument language with
  | .error failure => pure (.error failure)
  | .ok directory => do
    Logged.note .debug s!"using dictionary in {directory.string}"
    loadFiles surroundings (.below directory language)

end Orthography.CommandLine
