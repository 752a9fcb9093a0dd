import Quarry.Fault
import Quarry.Number.Integer
import Quarry.Path
import Quarry.Text.Blank
import Quarry.Text.Case

/-! The settings of the program, from given values or from the environment. -/
namespace Quarry

/-- The sandbox and the size limits. -/
structure Settings where
  baseDir : Path
  maxFileSize : Nat
  maxJsonSize : Nat
  deriving DecidableEq, Repr

namespace Settings

open Json (Value)

def defaultBaseDir : Text := "/app/kb".toList
def defaultMaxFileSize : Nat := 100 * 1024 * 1024
def defaultMaxJsonSize : Nat := 10 * 1024 * 1024

/-- A size, which is a positive integer. -/
def size (name : Text) : Value → Except Fault Nat
  | .int n => if 0 < n then .ok n.toNat else .error (.sizeNotPositive name (.int n))
  | value => .error (.sizeNotPositive name value)

/-- The base directory, whose spelling must not be blank. -/
def directory : Value → Except Fault Path
  | .null => .error .emptyBaseDir
  | .text spelling => if Text.isBlank spelling then .error .emptyBaseDir else .ok (.ofText spelling)
  | _ => .error (.wrongSetting "base_dir".toList)

/-- Settings from their values, checked in this order. -/
def make (baseDir maxFileSize maxJsonSize : Value) : Except Fault Settings := do
  let baseDir ← directory baseDir
  let maxFileSize ← size "max_file_size".toList maxFileSize
  let maxJsonSize ← size "max_json_size".toList maxJsonSize
  .ok ⟨baseDir, maxFileSize, maxJsonSize⟩

def names : List Text := ["base_dir".toList, "max_file_size".toList, "max_json_size".toList]

/-- Settings by name. Those that are not given have their defaults; there are no others. -/
def ofFields (fields : Json.Fields) : Except Fault Settings :=
  match fields.find? fun field => !names.contains field.1 with
  | some (name, _) => .error (.wrongSetting name)
  | none =>
    make ((fields.lookup "base_dir".toList).getD (.text defaultBaseDir))
      ((fields.lookup "max_file_size".toList).getD (.int defaultMaxFileSize))
      ((fields.lookup "max_json_size".toList).getD (.int defaultMaxJsonSize))

end Settings

/-- Environment variables. -/
abbrev Environment := List (Text × Text)

/-- Everything that the environment decides. -/
structure Configuration where
  settings : Settings
  logLevel : Text

namespace Environment

/-- The integer that a variable holds, or the default where there is no such variable. -/
def int (environment : Environment) (name : Text) (default : Nat) : Except Fault Int :=
  match environment.lookup name with
  | none => .ok default
  | some text =>
    match Integer.read? text with
    | some n => .ok n
    | none => .error (.notAnInteger name text)

/-- The settings that the environment holds. The base directory is taken as a path first, so that
an empty variable names the working directory. -/
def settings (environment : Environment) : Except Fault Settings := do
  let baseDir :=
    Path.ofText ((environment.lookup "KNOWLEDGE_BASE_PATH".toList).getD Settings.defaultBaseDir)
  let maxFileSize ← environment.int "MAX_FILE_SIZE".toList Settings.defaultMaxFileSize
  let maxJsonSize ← environment.int "MAX_JSON_SIZE".toList Settings.defaultMaxJsonSize
  Settings.make (.text baseDir.text) (.int maxFileSize) (.int maxJsonSize)

/-- The name of the log level, in capital letters. -/
def logLevel (environment : Environment) : Text :=
  Text.upper ((environment.lookup "LOG_LEVEL".toList).getD "INFO".toList)

def configuration (environment : Environment) : Except Fault Configuration := do
  let settings ← environment.settings
  .ok ⟨settings, environment.logLevel⟩

end Environment
end Quarry
