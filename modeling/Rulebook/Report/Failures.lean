import Rulebook.Report.Basic
import Rulebook.Rule.Result
import Rulebook.Value.Equality
import Rulebook.Fault

/-!
Reports of failures. A failed check becomes one entry. The failures of a sequence become one report
under their positions, and each failure of a map becomes a report of its own under its name. A check
without a name is listed under the nearest name around it.
-/

namespace Rulebook

/-- Adds items under a key, after those that are there already. -/
def Fields.extend {α : Type} (key : Value) (items : List (Report α)) : Fields α → Fields α
  | [] => [(key, items)]
  | (k, found) :: rest =>
    if key.sameKey k then (k, found ++ items) :: rest
    else (k, found) :: Fields.extend key items rest

/-- A name that can stand for a field. -/
def asKey (name : Value) : Except Fault Value :=
  if name.isKey then .ok name else .error .unsupported

/-- The name of a check, or the name around it if it has none. -/
def nameOr (name around : Value) : Value := if name.isNull then around else name

namespace Failure

mutual

/-- The items that report a failure under a name. -/
def items (around : Value) : Failure → Except Fault (List (Report Entry))
  | ⟨_, _, _, _, _, .each, children⟩ => do
    return [.nested (← positions around children [])]
  | ⟨_, _, _, _, _, .set, children⟩ => fieldItems around children
  | ⟨_, name, predicate, arguments, value, kind, _⟩ =>
    .ok [.leaf
      { name := nameOr name around, predicate := predicate.getD "None", arguments, value,
        ruleType := kind.text }]

/-- The failures of a sequence, added under their positions. -/
def positions (around : Value) :
    List (Value × Failure) → Document → Except Fault Document
  | [], found => .ok found
  | (index, f) :: rest, found => do
    let key ← asKey index
    let inner ← f.items around
    positions around rest (Fields.extend key inner found)

/-- The failures of a map, one report each. -/
def fieldItems (around : Value) : List (Value × Failure) → Except Fault (List (Report Entry))
  | [] => .ok []
  | (name, f) :: rest => do
    let key ← asKey (nameOr name around)
    let inner ← f.items key
    return .nested [(key, inner)] :: (← fieldItems around rest)

end

end Failure

/-- The report of some failures, each under its own name. -/
def Document.addFailures (found : Document) : List Failure → Except Fault Document
  | [] => .ok found
  | f :: rest => do
    let key ← asKey f.name
    let inner ← f.items f.name
    Document.addFailures (Fields.extend key inner found) rest

/-- The report of the failures among some results. -/
def Document.ofResults (results : List Result) : Except Fault Document :=
  Document.addFailures [] (results.filterMap Result.failure?)

end Rulebook
