/-!
Records of what happens while schemas are loaded and applied.
-/

namespace Rulebook

inductive LogLevel where
  | debug
  | warning
  deriving DecidableEq, Repr

/-- The parts of the library that write records. -/
inductive LogSource where
  | compiler
  | messages
  | resolver
  | schema
  deriving DecidableEq, Repr

structure LogRecord where
  level : LogLevel
  source : LogSource
  text : String
  deriving DecidableEq, Repr

def LogLevel.text : LogLevel → String
  | .debug => "DEBUG"
  | .warning => "WARNING"

def LogSource.text : LogSource → String
  | .compiler => "ruleweave.logic.compiler"
  | .messages => "ruleweave.errors.messages"
  | .resolver => "ruleweave.errors.resolver"
  | .schema => "ruleweave.schema"

/-- A record on one line. -/
def LogRecord.line (r : LogRecord) : String :=
  r.level.text ++ " " ++ r.source.text ++ ": " ++ r.text

/-- A computation that may fail and leaves records either way. -/
abbrev Logged (ε : Type) := ExceptT ε (StateM (List LogRecord))

namespace Logged

variable {ε δ α : Type}

/-- Adds a record. -/
def write (level : LogLevel) (source : LogSource) (text : String) : Logged ε Unit := do
  let before ← getThe (List LogRecord)
  set (before ++ [⟨level, source, text⟩])

/-- A computation without records. -/
def ofExcept : Except ε α → Logged ε α
  | .ok a => pure a
  | .error e => throw e

/-- The outcome and the records of a computation. -/
def collect (x : Logged ε α) : Except ε α × List LogRecord := x.run.run []

/-- States a failure in other terms and keeps the records. -/
def mapError (f : ε → δ) (x : Logged ε α) : Logged δ α := do
  let before ← getThe (List LogRecord)
  let (outcome, records) := x.run.run before
  set records
  match outcome with
  | .ok a => return a
  | .error e => throw (f e)

end Logged
end Rulebook
