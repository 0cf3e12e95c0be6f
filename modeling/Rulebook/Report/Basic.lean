import Rulebook.Value.Basic

/-!
Reports: what is said about an input, in the nesting of the input. A report is a list of fields;
each field holds items, and an item is either a statement or the report on something inside the
field.
-/

namespace Rulebook

/-- An item of a report. -/
inductive Report (α : Type) where
  | leaf (a : α)
  | nested (fields : List (Value × List (Report α)))
  deriving Repr

/-- Fields with their items. -/
abbrev Fields (α : Type) := List (Value × List (Report α))

namespace Report

variable {α β : Type} {m : Type → Type} [Monad m]

mutual

/-- Replaces every statement, in order. -/
def traverse (f : α → m β) : Report α → m (Report β)
  | .leaf a => do return .leaf (← f a)
  | .nested fields => do return .nested (← traverseFields f fields)

def traverseItems (f : α → m β) : List (Report α) → m (List (Report β))
  | [] => return []
  | item :: rest => do
    let item ← traverse f item
    return item :: (← traverseItems f rest)

/-- Replaces every statement of a report and keeps fields and nesting. -/
def traverseFields (f : α → m β) :
    List (Value × List (Report α)) → m (List (Value × List (Report β)))
  | [] => return []
  | (key, items) :: rest => do
    let items ← traverseItems f items
    return (key, items) :: (← traverseFields f rest)

end

end Report

/-- One failed check of a field. -/
structure Entry where
  name : Value
  predicate : String
  arguments : List (String × Value) := []
  value : Value
  ruleType : String := "val"
  deriving Repr

/-- What failed in an input. -/
abbrev Document := Fields Entry

/-- The values of the bound arguments. -/
def Entry.argumentValues (e : Entry) : List Value := e.arguments.map (·.2)

end Rulebook
