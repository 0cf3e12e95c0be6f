import Rulebook.Check.Basic
import Rulebook.Report.Data
import Rulebook.Json.Writer

/-!
The three forms in which a checked file is reported: for readers, as JSON, and one line per message.
-/

namespace Rulebook

namespace Report

/-- The path of a field inside a path: names joined by points. Null adds nothing. -/
def pathOf (around : String) (key : Value) : String :=
  if key.isNull then around
  else if around.isEmpty then key.text
  else around ++ "." ++ key.text

mutual

/-- The statements of an item with their paths, in order. -/
def flatten (path : String) : Report Value → List (String × String)
  | .leaf v => [(path, v.text)]
  | .nested fields => flattenFields path fields

def flattenItems (path : String) : List (Report Value) → List (String × String)
  | [] => []
  | item :: rest => flatten path item ++ flattenItems path rest

def flattenFields (around : String) :
    List (Value × List (Report Value)) → List (String × String)
  | [] => []
  | (key, items) :: rest => flattenItems (pathOf around key) items ++ flattenFields around rest

end

end Report

namespace CheckResult

/-- All messages with their paths. -/
def lines (r : CheckResult) : List (String × String) := Report.flattenFields "" r.messages

/-- The report for readers. -/
def rich (r : CheckResult) : String :=
  let seconds := (r.elapsed.divide 1000).oneDecimal ++ "s"
  let head :=
    ["Input: " ++ r.inputPath ++ " (" ++ toString r.rulesEvaluated ++ " rules evaluated)", ""]
  let body :=
    if r.lines.isEmpty then ["✓ Input is valid (" ++ seconds ++ ")"]
    else
      r.lines.map (fun l => "✗ " ++ l.1 ++ ": " ++ l.2)
        ++ ["", toString r.lines.length ++ " errors found (" ++ seconds ++ ")"]
  joined "\n" (head ++ body)

/-- The report as data. -/
def toData (r : CheckResult) : Value :=
  .map
    [(.str "errors", r.errors.toData Entry.toData),
      (.str "messages", r.messages.toData id),
      (.str "summary", .map
        [(.str "input", .str r.inputPath),
          (.str "valid", .bool r.isValid),
          (.str "rules_evaluated", .int r.rulesEvaluated),
          (.str "elapsed_ms", .atom (.float r.elapsed))])]

/-- The report as JSON. -/
def json (r : CheckResult) : Except Fault String := Json.write r.toData

/-- The report with one line per message: its path, a tab and its text. -/
def porcelain (r : CheckResult) : String :=
  joined "\n" (r.lines.map fun l => l.1 ++ "\t" ++ l.2)

end CheckResult
end Rulebook
