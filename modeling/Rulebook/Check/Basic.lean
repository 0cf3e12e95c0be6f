import Rulebook.Schema.File

/-!
Checking an input file against a schema file.
-/

namespace Rulebook

/-- What is reported about a checked file. Messages are values here, so that reports from elsewhere
can be shown too. -/
structure CheckResult where
  inputPath : String
  errors : Document := []
  messages : Fields Value := []
  rulesEvaluated : Int := 0
  /-- The time that the check took, in milliseconds. -/
  elapsed : Double := .zero false

/-- Whether the input is valid. -/
def CheckResult.isValid (r : CheckResult) : Bool := r.errors.isEmpty

/-- Why a check could not be carried out. -/
inductive CheckError where
  | invalidSchema (e : LoadError)
  | invalidMessages (e : LoadError)
  | invalidTemplate (e : MessageError)
  | unreadableInput (path : Path)
  deriving Repr

/-- The text of an error. Where a file cannot be read it would go on with a colon and the reason that
the system or the reader gives, which is left out. -/
def CheckError.message : CheckError → String
  | .invalidSchema e => "Invalid schema: " ++ e.message
  | .invalidMessages e => "Invalid messages: " ++ e.message
  | .invalidTemplate e => "Invalid messages: " ++ e.message
  | .unreadableInput path => "Cannot read input " ++ path.text

/-- How a check ends without a result: with an error that is reported, or broken off. -/
inductive CheckStop where
  | reported (e : CheckError)
  | unread (e : ReadError)
  | fault (f : Fault)
  deriving Repr

namespace CheckStop

/-- An error of loading, reported in some way if it is one of the set-up. -/
def ofLoad (report : LoadError → CheckError) (e : LoadError) : CheckStop :=
  match e with
  | .brokenOff f | .badRules (.brokenOff f) => .fault f
  | .unread e => .unread e
  | _ => .reported (report e)

/-- An error of reading the input, as it is reported if it is. -/
def ofRead (inputPath : Path) (e : ReadError) : CheckStop :=
  if e.isReportedForInput then .reported (.unreadableInput inputPath) else .unread e

end CheckStop

/-- The wishes of the caller, which outweigh what the schema file says. -/
structure CheckOptions where
  scope : Option String := none
  locale : Option String := none
  messagesPath : Option Path := none

namespace Check

/-- No supplied predicates take part in a check. -/
def oracle : Oracle := Oracle.standard fun _ _ => .error .unsupported

/-- The configuration as the caller wishes it. -/
def configure (w : Workspace) (o : CheckOptions) (config : Config) : Logged CheckStop Config := do
  let config := match o.scope with
    | some s => config.withScope (some s)
    | none => config
  let config := match o.locale with
    | some l => config.withLocale l
    | none => config
  match o.messagesPath with
  | some p =>
    return config.withMessages
      (← Logged.mapError (CheckStop.ofLoad .invalidMessages) (loadMessages w p))
  | none => return config

/-- Checks an input file against a schema file. -/
def run (w : Workspace) (elapsed : Double) (schemaPath inputPath : Path) (o : CheckOptions) :
    Logged CheckStop CheckResult := do
  let schema ← Logged.mapError (CheckStop.ofLoad .invalidSchema)
    (loadSchema w schemaPath .default)
  let config ← configure w o schema.config
  let data ← Logged.ofExcept <| (w.readInput inputPath).mapError (CheckStop.ofRead inputPath)
  let verdict ← Logged.mapError .fault (Schema.apply oracle ⟨schema.rules, config⟩ data)
  let messages ← Logged.mapError (fun e => .reported (.invalidTemplate e)) (verdict.messages none)
  let shown := Report.traverseFields (m := Id) (fun s => pure (Value.str s)) messages
  return {
    inputPath := inputPath.text
    errors := verdict.errors
    messages := shown
    rulesEvaluated := schema.rules.length
    elapsed }

end Check
end Rulebook
