import Quarry.Fault

/-! Operations that report what they do. What was logged before a fault stays logged. -/
namespace Quarry

inductive Level where
  | debug
  | info
  | warning
  deriving DecidableEq, Repr

def Level.name : Level → Text
  | .debug => "DEBUG".toList
  | .info => "INFO".toList
  | .warning => "WARNING".toList

def Level.rank : Level → Nat
  | .debug => 10
  | .info => 20
  | .warning => 30

/-- The part of the program that a log entry comes from. -/
inductive Origin where
  | sandbox
  | records
  | document
  deriving DecidableEq, Repr

def Origin.name : Origin → Text
  | .sandbox => "ingestion.path_guard".toList
  | .records => "ingestion.json_flattener".toList
  | .document => "ingestion.document_parser".toList

structure Entry where
  level : Level
  origin : Origin
  message : Text
  deriving DecidableEq, Repr

/-- A log entry as a line. -/
def Entry.line (entry : Entry) : Text :=
  entry.level.name ++ ' ' :: entry.origin.name ++ ':' :: ' ' :: entry.message

/-- What an operation logged, and its result or the fault that ended it. -/
structure Traced (α : Type) where
  log : List Entry
  outcome : Except Fault α

namespace Traced

/-- Goes on with the result, if there is one. -/
def andThen {α β : Type} (first : Traced α) (next : α → Traced β) : Traced β :=
  match first.outcome with
  | .error fault => ⟨first.log, .error fault⟩
  | .ok a => ⟨first.log ++ (next a).log, (next a).outcome⟩

instance : Monad Traced where
  pure a := ⟨[], .ok a⟩
  bind := andThen

/-- Ends with a fault. -/
def fail {α : Type} (fault : Fault) : Traced α := ⟨[], .error fault⟩

/-- Logs one entry. -/
def report (level : Level) (origin : Origin) (message : Text) : Traced Unit :=
  ⟨[⟨level, origin, message⟩], .ok ()⟩

/-- An outcome with nothing logged. -/
def ofExcept {α : Type} (outcome : Except Fault α) : Traced α := ⟨[], outcome⟩

end Traced
end Quarry
