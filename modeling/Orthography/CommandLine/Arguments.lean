import Orthography.Text.Basic

/-!
# Arguments

Options can be written as `--name=value`, as `--name value` or by a letter as `-n value`.  Each
option is taken out of the arguments in turn, wherever it stands; its last value counts.
-/

namespace Orthography.CommandLine

/-- Why a tool gives up. -/
inductive Failure where
  /-- An option stands at the end without its value. -/
  | missingValue (option : Text)
  /-- The value of an option is no number. -/
  | invalidNumber (option : Text)
  /-- A file of the dictionary cannot be found. -/
  | notFound (language : Text) (roots : List Text)
  /-- A file is not encoded as text. -/
  | unreadable (path : Text)
  /-- The affix file cannot be used. -/
  | unusable (path : Text) (reason : String)
  deriving DecidableEq, Repr

/-- The wording of a failure. -/
def Failure.message : Failure → String
  | missingValue option => s!"{option.string} requires a value"
  | invalidNumber option => s!"invalid number for {option.string}"
  | notFound language roots =>
    let listed := String.intercalate "\n" (roots.map fun root => s!"  - {root.string}")
    s!"could not find {language.string}.aff and {language.string}.dic in any of the search paths:\n"
      ++ listed
  | unreadable path => s!"failed to read {path.string}: stream did not contain valid UTF-8"
  | unusable path reason => s!"failed to load {path.string}: {reason}"

/-- Takes an option out of the arguments; returns its last value and the other arguments. -/
def takeOption (short long : Text) : List Text → Except Failure (Option Text × List Text)
  | [] => .ok (none, [])
  | arg :: rest =>
    match (long ++ ['=']).isPrefixOf? arg with
    | some value => do
      let (later, others) ← takeOption short long rest
      return (later.or (some value), others)
    | none =>
      if arg = long || arg = short then
        match rest with
        | [] => .error (.missingValue arg)
        | value :: rest => do
          let (later, others) ← takeOption short long rest
          return (later.or (some value), others)
      else do
        let (later, others) ← takeOption short long rest
        return (later, arg :: others)

/-- Takes out the directory of the dictionary. -/
def takeDictionaryPath (args : List Text) : Except Failure (Option Text × List Text) :=
  takeOption ['-', 'd'] "--dict-path".toList args

/-- The dictionary that is used if none is named. -/
def usualLanguage : Text := "en_US".toList

/-- Takes out the name of the dictionary. -/
def takeLanguage (args : List Text) : Except Failure (Text × List Text) := do
  let (language, rest) ← takeOption ['-', 'l'] "--lang".toList args
  return (language.getD usualLanguage, rest)

/-- Whether one of several words is among the arguments. -/
def mentions (words args : List Text) : Bool := args.any words.contains

/-- Whether the arguments ask for help. -/
def wantsHelp (args : List Text) : Bool := mentions ["--help".toList, ['-', 'h']] args

/-- The value of an option as a count. -/
def readNumber (option : Text) : Option Text → Except Failure (Option Nat)
  | none => .ok none
  | some value =>
    match Text.count? value with
    | some number => .ok (some number)
    | none => .error (.invalidNumber option)

/-- The arguments that are no options. -/
def operands (args : List Text) : List Text := args.filter fun arg => arg.head? != some '-'

end Orthography.CommandLine
