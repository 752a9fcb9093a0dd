import Quarry.Json.Literal
import Quarry.Markup.Refusal
import Quarry.Pattern.Reader

/-! What can go wrong, by cause, and how each cause is worded. -/
namespace Quarry

/-- The causes that end an operation. Paths are shown as they were resolved, except for the
requested path of an escape, which is shown as it was given. -/
inductive Fault where
  | emptyPath
  | outsideBase (requested base : Text)
  | unresolvable (path : Text)
  | fileTooLarge (path : Text) (size limit : Nat)
  | contentTooLarge (path : Text) (size limit : Nat)
  | binaryContent (suffix : Text)
  | fileMissing (path : Text)
  | sizeUnknown (path : Text)
  | unreadable (path : Text)
  | extractionFailed (format path cause : Text)
  | emptyBaseDir
  | sizeNotPositive (name : Text) (received : Json.Value)
  | notAnInteger (name received : Text)
  /-- A setting that does not exist, or a base directory that is no text. -/
  | wrongSetting (name : Text)
  /-- JSON text that nests too deeply to be read. -/
  | nestedTooDeeply
  /-- A path with a null character, which no file system takes. -/
  | nulInPath
  /-- Text that holds half of a surrogate pair, which no output takes. -/
  | unprintable
  | refusedPattern (error : Pattern.ReadError)
  | refusedMarkup (refusal : Markup.Refusal)
  /-- A level of the log that names something else of it. -/
  | notALevel (name : Text)

/-- Whose business a failure is. -/
inductive FailureKind where
  | general
  /-- The caller can mend it. -/
  | validation
  /-- The surroundings failed. -/
  | fileOperation
  deriving DecidableEq, Repr

namespace FailureKind

def name : FailureKind → Text
  | .general => "RAGError".toList
  | .validation => "ValidationError".toList
  | .fileOperation => "FileOperationError".toList

def code : FailureKind → Text
  | .general => "RAG_ERROR".toList
  | .validation => "VALIDATION_ERROR".toList
  | .fileOperation => "FILE_OPERATION_ERROR".toList

def status : FailureKind → Nat
  | .validation => 400
  | _ => 500

/-- Whether failures of this kind count among those of another: all are general failures. -/
def isA (kind other : FailureKind) : Bool := other == .general || kind == other

end FailureKind

/-- A failure as it is reported. -/
structure Failure where
  kind : FailureKind
  message : Text
  details : Json.Value

/-- A failure as a JSON record. -/
def Failure.toJson (failure : Failure) : Json.Value :=
  .record
    [("name".toList, .text failure.kind.name),
     ("code".toList, .text failure.kind.code),
     ("message".toList, .text failure.message),
     ("status_code".toList, .int failure.kind.status),
     ("details".toList, failure.details)]

namespace Fault

/-- The wording of a validation failure, and what it tells besides. -/
def invalid (message : Text) (details : Json.Value) : Option Failure :=
  some ⟨.validation, message, details⟩

def fileOperation (message : Text) (details : Json.Value) : Option Failure :=
  some ⟨.fileOperation, message, details⟩

/-- How a fault is reported. Faults without a report of their own end the whole run. -/
def failure? : Fault → Option Failure
  | .emptyPath => invalid "File path must not be empty".toList .null
  | .outsideBase requested base =>
    invalid ("File path must be within base directory (".toList ++ base ++
        "). Received path outside base directory: ".toList ++ requested)
      (.record [("path".toList, .text requested), ("base_dir".toList, .text base)])
  | .unresolvable path =>
    invalid ("Failed to resolve path for security validation: ".toList ++ path) .null
  | .fileTooLarge path size limit =>
    invalid ("File size exceeds limit: ".toList ++ Text.ofNat size ++ " > ".toList ++
        Text.ofNat limit)
      (.record [("path".toList, .text path), ("size".toList, .int size),
        ("max_file_size".toList, .int limit)])
  | .contentTooLarge path size limit =>
    invalid ("JSON content size (".toList ++ Text.ofNat size ++
      " characters) exceeds limit (".toList ++ Text.ofNat limit ++ " characters): ".toList ++
      path) .null
  | .binaryContent suffix =>
    invalid ("Binary format cannot be parsed from text content: ".toList ++ suffix) .null
  | .fileMissing path => fileOperation ("File not found: ".toList ++ path) .null
  | .sizeUnknown path => fileOperation ("Failed to check file size: ".toList ++ path) .null
  | .unreadable path => fileOperation ("Failed to read file: ".toList ++ path) .null
  | .extractionFailed format path cause =>
    fileOperation ("Failed to parse ".toList ++ format ++ ": ".toList ++ path)
      (.record [("path".toList, .text path), ("cause".toList, .text cause)])
  | .emptyBaseDir => invalid "base_dir must be a non-empty path".toList .null
  | .sizeNotPositive name received =>
    invalid (name ++ " must be a positive integer (received: ".toList ++ received.literal ++
      [')']) .null
  | .notAnInteger name received =>
    invalid (name ++ " must be an integer (received: ".toList ++ Text.quoted received ++
      [')']) .null
  | .wrongSetting _ | .nestedTooDeeply | .nulInPath | .unprintable | .refusedPattern _
  | .refusedMarkup _ | .notALevel _ => none

end Fault
end Quarry
