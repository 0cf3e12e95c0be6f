import Rulebook.Command.Arguments
import Rulebook.Command.Listing
import Rulebook.Command.Plain
import Rulebook.Check.Format

/-!
The commands of the program: checking a file, printing the rules of a schema, and listing
predicates. A valid input ends with code 0, an invalid one with 1, and a broken set-up or command
line with 2.
-/

namespace Rulebook.Command

/-- The name under which the program speaks of itself. -/
def programName : String := "ruleweave"

def version : String := "0.4.0"

/-- How the program was broken off. -/
inductive Break where
  | fault (f : Fault)
  | unread (e : ReadError)
  deriving DecidableEq, Repr

/-- What a run of the program leaves behind. -/
structure Outcome where
  exitCode : Nat
  stdout : String := ""
  stderr : String := ""
  /-- A command line that cannot be used is answered with a usage text. -/
  isUsage : Bool := false
  /-- Set if the program was broken off. -/
  broken : Option Break := none
  deriving Repr

def Outcome.usage : Outcome := { exitCode := 2, isUsage := true }

/-- Which records are shown. -/
inductive Verbosity where
  | normal
  | verbose
  | quiet
  deriving DecidableEq, Repr

def Verbosity.shows : Verbosity → LogLevel → Bool
  | .verbose, _ => true
  | .normal, l => l = .warning
  | .quiet, _ => false

/-- The lines of the records that are shown. -/
def logText (v : Verbosity) (records : List LogRecord) : String :=
  String.join ((records.filter fun r => v.shows r.level).map fun r => r.line ++ "\n")

/-- The forms of a report. -/
inductive ReportForm where
  | rich
  | json
  | porcelain
  deriving DecidableEq, Repr

def ReportForm.ofText? (s : String) : Option ReportForm :=
  [("rich", .rich), ("json", .json), ("porcelain", .porcelain)].lookup s

def ReportForm.render (r : CheckResult) : ReportForm → Except Fault String
  | .rich => .ok r.rich
  | .json => r.json
  | .porcelain => .ok r.porcelain

/-- The end of a command that was broken off; the records shown so far stay. -/
def brokenOff (log : String) (b : Break) : Outcome :=
  { exitCode := 1, stderr := log, broken := some b }

/-- The end of a command with a reported error. -/
def reported (log message : String) : Outcome :=
  { exitCode := 2, stderr := log ++ Plain.text ("Error: " ++ message) ++ "\n" }

/-- What the command line gives in a place, or the end of the program if that cannot be used. -/
abbrev Given := Except Outcome

/-- The outcome that the last step or an earlier end leaves. -/
def Given.outcome : Given Outcome → Outcome
  | .ok o => o
  | .error o => o

/-- The path that an argument names, which must be one of a file. An argument that ends like a
directory names no file. -/
def filePath (w : Workspace) (argument : String) : Given Path :=
  let path := Path.ofText argument
  if argument.isEmpty then throw .usage
  else match w path with
    | .unnameable => throw (brokenOff "" (.unread .unnameable))
    | .file _ =>
      if argument.endsWith "/" || argument.endsWith "/."
        || Workspace.pathLimit < argument.utf8ByteSize then throw .usage
      else return path
    | _ => throw .usage

def checkOptions : List OptionSpec :=
  [{ name := "format", takesValue := true }, { name := "namespace", takesValue := true },
    { name := "locale", takesValue := true }, { name := "messages", takesValue := true },
    { name := "help" }]

/-- Ends a check in a form of report. -/
def finishCheck (log : String) (form : ReportForm) (r : CheckResult) : Outcome :=
  match form.render r with
  | .error f => brokenOff log (.fault f)
  | .ok text =>
    { exitCode := if r.isValid then 0 else 1
      stdout := if text.isEmpty then "" else Plain.text text ++ "\n"
      stderr := log }

/-- The form of report that was asked for; the last wish counts. -/
def formOf (p : Parsed) : Given ReportForm :=
  match ReportForm.ofText? ((p.value? "format").getD "porcelain") with
  | some form => return form
  | none => throw .usage

/-- The message file that was asked for. -/
def messagesFile (w : Workspace) (p : Parsed) : Given (Option Path) :=
  (p.value? "messages").mapM (filePath w)

/-- Checks the values of options in the order in which the options were given. -/
def vetOptions (w : Workspace) (p : Parsed) : Given Unit :=
  p.options.forM fun (name, _) => do
    if name = "format" then
      let _ ← formOf p
    else if name = "messages" then
      let _ ← messagesFile w p

/-- The files that a command must be given, and nothing else. -/
def theFiles (w : Workspace) (count : Nat) (p : Parsed) : Given (List Path) := do
  let paths ← (p.arguments.take count).mapM (filePath w)
  if p.arguments.length = count then return paths else throw .usage

/-- Checks a file against a schema. -/
def check (w : Workspace) (elapsed : Double) (v : Verbosity) (words : List String) : Outcome :=
  match parse checkOptions true .empty words with
  | none => .usage
  | some p =>
    if p.has "help" then { exitCode := 0 }
    else Given.outcome do
      vetOptions w p
      let form ← formOf p
      let messagesPath ← messagesFile w p
      match ← theFiles w 2 p with
      | [schemaPath, inputPath] =>
        let o : CheckOptions := ⟨p.value? "namespace", p.value? "locale", messagesPath⟩
        let (outcome, records) := (Check.run w elapsed schemaPath inputPath o).collect
        let log := logText v records
        match outcome with
        | .ok r => return finishCheck log form r
        | .error (.reported e) => return reported log e.message
        | .error (.fault f) => return brokenOff log (.fault f)
        | .error (.unread e) => return brokenOff log (.unread e)
      | _ => throw .usage

/-- Prints the rules of a schema as nodes. -/
def ast (w : Workspace) (v : Verbosity) (words : List String) : Outcome :=
  match parse [{ name := "help" }] true .empty words with
  | none => .usage
  | some p =>
    if p.has "help" then { exitCode := 0 }
    else Given.outcome do
      match ← theFiles w 1 p with
      | [path] =>
        let (outcome, records) := (loadSchema w path .default).collect
        let log := logText v records
        match outcome with
        | .ok s =>
          match Json.write s.toNodes with
          | .ok text => return { exitCode := 0, stdout := text ++ "\n", stderr := log }
          | .error f => return brokenOff log (.fault f)
        | .error e =>
          match CheckStop.ofLoad .invalidSchema e with
          | .reported _ => return reported log e.message
          | .fault f => return brokenOff log (.fault f)
          | .unread e => return brokenOff log (.unread e)
      | _ => throw .usage

/-- Lists the standard predicates. -/
def predicates (words : List String) : Outcome :=
  match parse [{ name := "json" }, { name := "help" }] true .empty words with
  | none => .usage
  | some p =>
    if p.has "help" then { exitCode := 0 }
    else if !p.arguments.isEmpty then .usage
    else if p.has "json" then
      match Json.write listingData with
      | .ok text => { exitCode := 0, stdout := text ++ "\n" }
      | .error f => brokenOff "" (.fault f)
    else { exitCode := 0, stdout := listingTable }

def programOptions : List OptionSpec :=
  [{ name := "version" }, { name := "verbose", letter := some 'v' },
    { name := "quiet", letter := some 'q' }, { name := "help" }]

/-- Runs the program on a command line. A verbose program is not quiet. -/
def run (w : Workspace) (elapsed : Double) (words : List String) : Outcome :=
  match parse programOptions false .empty words with
  | none => .usage
  | some p =>
    match p.options.find? fun o => o.1 = "version" || o.1 = "help" with
    | some (name, _) =>
      if name = "version" then
        { exitCode := 0, stdout := programName ++ ", version " ++ version ++ "\n" }
      else { exitCode := 0 }
    | none =>
      let v : Verbosity :=
        if p.has "verbose" then .verbose else if p.has "quiet" then .quiet else .normal
      match p.arguments with
      | "check" :: rest => check w elapsed v rest
      | "ast" :: rest => ast w v rest
      | "predicates" :: rest => predicates rest
      | [] => if words.isEmpty then { exitCode := 0 } else .usage
      | _ => .usage

end Rulebook.Command
