import Quarry.Cli.Run
import Quarry.Disk.Edit

/-! The program as it runs: words and environment come from the system, the part of the file system
that a command looks at is read beforehand, and what the command prints goes to the two outputs. -/
namespace Quarry.Cli

def usageText : String :=
  "usage: quarry parse-file PATH [--base-dir DIR] [--max-file-size N]\n" ++
  "       quarry detect PATH [--base-dir DIR] [--max-file-size N]\n" ++
  "       quarry parse-query QUERY [--pretty]\n"

def variableNames : List String :=
  ["KNOWLEDGE_BASE_PATH", "MAX_FILE_SIZE", "MAX_JSON_SIZE", "LOG_LEVEL"]

/-- The variables that the program knows, as far as they are set. -/
def readEnvironment : IO Environment :=
  variableNames.filterMapM fun name => do
    let value ← IO.getEnv name
    pure (value.map fun text => (name.toList, text.toList))

/-- What the system has at a place that is no link. -/
def readNode (place : String) : IO (Option Node) :=
  try
    let data ← ((← IO.currentDir) / place).metadata
    match data.type with
    | .dir => pure (some .directory)
    | .file => do
      let octets ← IO.FS.readBinFile place
      pure (some (.file octets.toList))
    | _ => pure (some (.file []))
  catch _ => pure none

/-- Adds what the system has at a location, if there is anything. -/
def addNode (disk : Disk) (location : Location) : IO Disk := do
  match ← readNode (String.ofList (Disk.locationText location)) with
  | some node => pure (disk.put location node)
  | none => pure disk

/-- Adds the directories that lead to a location, and what is there. -/
def addLocation (disk : Disk) (location : Location) : IO Disk :=
  let above := (List.range location.length).map location.take
  addNode (above.foldl (fun disk location => disk.put location .directory) disk) location

/-- The end of the chain of links at a place, or nothing if the place is no link. A link that leads
nowhere counts as missing. -/
def linkEnd (place : String) : IO (Option String) :=
  try
    let data ← ((← IO.currentDir) / place).symlinkMetadata
    match data.type with
    | .symlink => do
      let ending ← IO.FS.realPath place
      pure (some ending.toString)
    | _ => pure none
  catch _ => pure none

/-- Adds what the system has along a path, from a location on. -/
def addNames (disk : Disk) (here : Location) : List Text → IO Disk
  | [] => pure disk
  | name :: rest =>
    if name = Path.up then addNames disk here.dropLast rest
    else do
      let next := here ++ [name]
      match ← linkEnd (String.ofList (Disk.locationText next)) with
      | some ending => do
        let target := Path.ofText ending.toList
        let disk ← addLocation disk target.names
        addNames (disk.put next (.link ending.toList)) target.names rest
      | none => do
        let disk ← addNode disk next
        addNames disk next rest

/-- The part of the file system that some paths lead through. -/
def readDisk (paths : List Path) : IO Disk := do
  let directory ← IO.FS.realPath (← IO.currentDir)
  let location := (Path.ofText directory.toString.toList).names
  let start : Disk := ⟨[], location⟩
  paths.foldlM (fun disk path => addNames disk (disk.origin path) path.names)
    (← addLocation start location)

/-- No engine for binary formats is at hand. -/
def noEngines : Engines :=
  let cause : Text := "no engine for this format".toList
  ⟨fun _ => .error cause, fun _ => .error cause⟩

/-- What is said about a fault that ends the run without a report. -/
def describe : Fault → String
  | .nestedTooDeeply => "JSON text nests too deeply"
  | .nulInPath => "a path holds a null character"
  | .unprintable => "the text holds half of a surrogate pair"
  | .refusedMarkup .unknownSection => "markup holds a section of an unknown kind"
  | .refusedMarkup .hugeNumber => "markup refers to a character by a number that is too long"
  | .notALevel _ => "the log level is no level"
  | _ => "the run cannot go on"

/-- Runs a command on the system, and tells the exit status. -/
def execute (command : Command) : IO UInt32 := do
  let environment ← readEnvironment
  let places := match environment.configuration with
    | .ok configuration => command.places configuration
    | .error _ => []
  let disk ← readDisk places
  match command.run noEngines disk environment with
  | .ok outcome => do
    IO.eprint (String.ofList outcome.errors)
    IO.print (String.ofList outcome.output)
    pure outcome.status.toUInt32
  | .error fault => do
    IO.eprintln ("Fatal: " ++ describe fault)
    pure 1

end Quarry.Cli

def main (args : List String) : IO UInt32 :=
  match Quarry.Cli.Command.read (args.map String.toList) with
  | .ok command => Quarry.Cli.execute command
  | .error .help => do
    IO.print Quarry.Cli.usageText
    pure 0
  | .error .usage => do
    IO.eprint Quarry.Cli.usageText
    pure 2
