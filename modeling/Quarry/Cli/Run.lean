import Quarry.Cli.Command
import Quarry.Document
import Quarry.Json.Printer
import Quarry.Query.Projection

/-! What a command prints, and how it ends. -/
namespace Quarry.Cli

/-- The exit status of a run, and what it writes to its two outputs. -/
structure Outcome where
  status : Nat
  output : Text
  errors : Text
  deriving DecidableEq, Repr

/-- The names of log levels and the least rank of what they let through. -/
def levelRanks : List (Text × Nat) :=
  [("NOTSET".toList, 0), ("DEBUG".toList, 10), ("INFO".toList, 20), ("WARN".toList, 30),
   ("WARNING".toList, 30), ("ERROR".toList, 40), ("FATAL".toList, 50), ("CRITICAL".toList, 50)]

/-- Names that the log uses for something else than a level. -/
def reservedNames : List Text := ["BASIC_FORMAT".toList, "_STYLES".toList]

/-- The least rank for a level. A level of an unknown name is INFO. -/
def rankOf (level : Text) : Except Fault Nat :=
  if reservedNames.contains level then .error (.notALevel level)
  else .ok ((levelRanks.lookup level).getD 20)

/-- A text and the line feed that ends it. -/
def lineOf (text : Text) : Text := text ++ ['\n']

/-- The lines of the log entries of a rank or above. -/
def logText (rank : Nat) (log : List Entry) : Text :=
  (log.filter fun entry => rank ≤ entry.level.rank).flatMap fun entry => lineOf entry.line

/-- How a run ends that printed a text, or met a fault that is reported. -/
def conclude (rank : Nat) (run : Traced Text) : Except Fault Outcome :=
  match run.outcome with
  | .ok text => .ok ⟨0, lineOf text, logText rank run.log⟩
  | .error fault =>
    match fault.failure? with
    | some failure =>
      .ok ⟨1, [], logText rank run.log ++ lineOf ("Error: ".toList ++ failure.message)⟩
    | none => .error fault

/-- The settings of the configuration with what the options put in their place. An empty directory
and a size of zero count as not given. -/
def Overrides.apply (overrides : Overrides) (settings : Settings) : Except Fault Settings :=
  let baseDir := match overrides.baseDir with
    | none | some [] => settings.baseDir
    | some text => .ofText text
  let maxFileSize : Int := match overrides.maxFileSize with
    | none | some 0 => settings.maxFileSize
    | some size => size
  Settings.make (.text baseDir.text) (.int maxFileSize) (.int settings.maxJsonSize)

def readerFor (overrides : Overrides) (configuration : Configuration) : Traced DocumentReader := do
  let settings ← .ofExcept (overrides.apply configuration.settings)
  pure (DocumentReader.make settings .standard none)

/-- A query by its parts and its projections. -/
def queryReport (query : Text) : Json.Value :=
  let parsed := Query.parse (some query)
  .record (parsed.fields ++
    [("semantic_query".toList, .text parsed.semanticQuery),
     ("fts_query".toList, .text parsed.keywordQuery)])

def queryStyle (pretty : Bool) : Json.Style := if pretty then .indented 2 else .compact

/-- The text that a command prints. A query that holds half of a surrogate pair cannot be printed. In
the text of a file another character stands for such a half, so that one is printed here. -/
def Command.text (engines : Engines) (disk : Disk) (configuration : Configuration) :
    Command → Traced Text
  | .parseFile path overrides => do
    let reader ← readerFor overrides configuration
    reader.parseFile engines disk (some path)
  | .detect path overrides => do
    let reader ← readerFor overrides configuration
    let format ← reader.detectFile disk (some path)
    pure format.name
  | .parseQuery query pretty =>
    match query.text? with
    | some text => pure (Json.render (queryStyle pretty) (queryReport text))
    -- What is printed holds the query itself, with the halves that it holds.
    | none => .fail .unprintable

/-- The paths of the file system that a command looks at. -/
def Command.places (configuration : Configuration) : Command → List Path
  | .parseFile path overrides | .detect path overrides =>
    match overrides.apply configuration.settings with
    | .ok settings => [settings.baseDir, settings.baseDir.join (.ofText path)]
    | .error _ => []
  | .parseQuery _ _ => []

/-- Runs a command. The environment is checked first, also for a query. -/
def Command.run (command : Command) (engines : Engines) (disk : Disk)
    (environment : Environment) : Except Fault Outcome :=
  match environment.configuration with
  | .error fault => conclude 0 (.fail fault)
  | .ok configuration => do
    let rank ← rankOf configuration.logLevel
    conclude rank (command.text engines disk configuration)

end Quarry.Cli
