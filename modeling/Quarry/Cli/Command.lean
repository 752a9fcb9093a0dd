import Quarry.Cli.Words
import Quarry.Text.Raw

/-! The commands of the program. -/
namespace Quarry.Cli

/-- What the options of a command put in the place of the configuration. -/
structure Overrides where
  baseDir : Option Text
  maxFileSize : Option Int

inductive Command where
  /-- Prints the text of a file. -/
  | parseFile (path : Text) (overrides : Overrides)
  /-- Prints the format of a file. -/
  | detect (path : Text) (overrides : Overrides)
  /-- Prints a query by its parts. -/
  | parseQuery (query : RawText) (pretty : Bool)

def baseDirOption : Text := "--base-dir".toList
def maxFileSizeOption : Text := "--max-file-size".toList
def prettyOption : Text := "--pretty".toList

/-- The options of the commands that read files. -/
def fileOptions : OptionTable := [(baseDirOption, .text), (maxFileSizeOption, .integer)]

def queryOptions : OptionTable := [(prettyOption, .nothing)]

/-- What the options of a file command say. Of several values for an option the last one counts,
which comes first here. -/
def Overrides.ofValues (values : List (Text × Text)) : Overrides :=
  ⟨values.lookup baseDirOption, (values.lookup maxFileSizeOption).bind Integer.read?⟩

def readFileCommand (words : List Text) : Except Refusal (Text × Overrides) := do
  let (path, arguments) ← readArguments fileOptions words
  .ok (path, .ofValues arguments.values)

/-- Reads a command and its words. -/
def readCommand (name : Text) (words : List Text) : Except Refusal Command :=
  if name = "parse-file".toList then do
    let (path, overrides) ← readFileCommand words
    .ok (.parseFile path overrides)
  else if name = "detect".toList then do
    let (path, overrides) ← readFileCommand words
    .ok (.detect path overrides)
  else if name = "parse-query".toList then do
    let (query, arguments) ← readArguments queryOptions words
    .ok (.parseQuery (.ofText query) (arguments.flags.contains prettyOption))
  else .error .usage

/-- Reads a command line. No option may stand before the command, but help is given behind an
option that is unknown. -/
def Command.read : List Text → Except Refusal Command
  | [] => .error .usage
  | word :: rest =>
    if word = doubleDash then .error .usage
    else match Word.ofText [] word with
      | .operand name => readCommand name rest
      | .help => .error .help
      | .unknown => if Command.read rest matches .error .help then .error .help else .error .usage
      | _ => .error .usage

end Quarry.Cli
