import Rulebook.Report.Basic
import Rulebook.Rule.Equality

/-!
Equality of reports: the same fields, in any order, with equal items in the same order.
-/

namespace Rulebook

/-- Whether two entries are equal. -/
def Entry.equal (a b : Entry) : Except Fault Bool :=
  andAlso (a.name.same b.name) fun _ =>
    if a.predicate = b.predicate then
      andAlso (sameArguments a.arguments b.arguments) fun _ =>
        andAlso (a.value.same b.value) fun _ => .ok (a.ruleType = b.ruleType)
    else .ok false

namespace Report

variable {α : Type}

mutual

/-- Whether two items are equal, given when statements are. -/
def equal (same : α → α → Except Fault Bool) : Report α → Report α → Except Fault Bool
  | .leaf a, .leaf b => same a b
  | .nested xs, .nested ys =>
    if xs.length = ys.length then equalFields same xs ys else .ok false
  | _, _ => .ok false

def equalItems (same : α → α → Except Fault Bool) :
    List (Report α) → List (Report α) → Except Fault Bool
  | [], [] => .ok true
  | x :: xs, y :: ys => andAlso (x.equal same y) fun _ => equalItems same xs ys
  | _, _ => .ok false

/-- Whether every field of the first report is one of the second. -/
def equalFields (same : α → α → Except Fault Bool) :
    List (Value × List (Report α)) → List (Value × List (Report α)) → Except Fault Bool
  | [], _ => .ok true
  | (key, items) :: rest, ys =>
    match ys.find? fun f => key.sameKey f.1 with
    | none => .ok false
    | some (_, found) =>
      andAlso (if items.length = found.length then equalItems same items found else .ok false)
        fun _ => equalFields same rest ys

end

end Report

/-- Whether two reports are equal, given when statements are. -/
def Fields.equal {α : Type} (same : α → α → Except Fault Bool) (xs ys : Fields α) :
    Except Fault Bool :=
  Report.equal same (.nested xs) (.nested ys)

end Rulebook
