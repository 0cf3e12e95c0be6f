import Rulebook.Report.Basic
import Rulebook.Value.Equality
import Rulebook.Value.Text

/-!
Reports as plain data: null, truth values, numbers, strings, lists, and maps whose keys are strings.
-/

namespace Rulebook

namespace Value

/-- Puts a value under the text of a key. -/
def putText (key : String) (v : Value) (entries : List (Value × Value)) : List (Value × Value) :=
  put (.str key) v entries

mutual

/-- A value as plain data. Keys become their texts, and values that are no data their plain text. -/
def plain : Value → Value
  | .atom .null => .null
  | .atom (.bool b) => .bool b
  | .atom (.int n) => .int n
  | .atom (.float x) => .atom (.float x)
  | .atom (.str s) => .str s
  | .atom other => .str other.text
  | .seq _ items => .list (plainAll items)
  | .set kind members => .str (Value.set kind members).text
  | .map entries => .map (plainEntries entries [])

def plainAll : List Value → List Value
  | [] => []
  | v :: rest => v.plain :: plainAll rest

def plainEntries : List (Value × Value) → List (Value × Value) → List (Value × Value)
  | [], found => found
  | (k, v) :: rest, found => plainEntries rest (putText k.text v.plain found)

end

end Value

/-- An entry as data. -/
def Entry.toData (e : Entry) : Value :=
  .map
    [(.str "name", e.name),
      (.str "predicate", .str e.predicate),
      (.str "args", .map (e.arguments.foldl (fun found a => Value.putText a.1 a.2.plain found) [])),
      (.str "value", e.value.plain),
      (.str "rule_type", .str e.ruleType)]

namespace Report

variable {α : Type}

mutual

/-- An item as data, given how a statement is shown. -/
def toData (leaf : α → Value) : Report α → Value
  | .leaf a => leaf a
  | .nested fields => .map (dataOfFields leaf fields [])

def dataOfItems (leaf : α → Value) : List (Report α) → List Value
  | [] => []
  | item :: rest => item.toData leaf :: dataOfItems leaf rest

/-- Fields under the texts of their keys; of two fields with one text the later one is kept. -/
def dataOfFields (leaf : α → Value) :
    List (Value × List (Report α)) → List (Value × Value) → List (Value × Value)
  | [], found => found
  | (key, items) :: rest, found =>
    dataOfFields leaf rest (Value.putText key.text (.list (dataOfItems leaf items)) found)

end

end Report

/-- A report as data, given how a statement is shown. -/
def Fields.toData {α : Type} (leaf : α → Value) (fields : Fields α) : Value :=
  .map (Report.dataOfFields leaf fields [])

end Rulebook
