import Rulebook.Rule.Node

/-!
What rules keep of the arguments that they are given. `freeze` and `thaw` go through sequences and
nothing else, so between them only the kinds of nested sequences can change. Main statements:
* `freeze_thaw`: freezing undoes thawing on the values that freezing can give;
* `thaw_freeze`: thawing undoes freezing up to the kinds of sequences, as `listed` has them.
-/

namespace Rulebook.Value

mutual

/-- Whether no list can be reached from a value through tuples. -/
def isFrozen : Value → Bool
  | .seq .list _ => false
  | .seq .tuple items => areFrozen items
  | _ => true

def areFrozen : List Value → Bool
  | [] => true
  | v :: rest => v.isFrozen && areFrozen rest

end

mutual

/-- A value with lists for the tuples that can be reached from it through sequences. -/
def listed : Value → Value
  | .seq _ items => .list (listedAll items)
  | other => other

def listedAll : List Value → List Value
  | [] => []
  | v :: rest => v.listed :: listedAll rest

end

/-! ## Lists of values -/

theorem freezeAll_eq_map (vs : List Value) : freezeAll vs = vs.map freeze := by
  induction vs with
  | nil => rfl
  | cons v rest ih => rw [freezeAll, ih, List.map_cons]

theorem thawAll_eq_map (vs : List Value) : thawAll vs = vs.map thaw := by
  induction vs with
  | nil => rfl
  | cons v rest ih => rw [thawAll, ih, List.map_cons]

theorem length_freezeAll (vs : List Value) : (freezeAll vs).length = vs.length := by
  rw [freezeAll_eq_map, List.length_map]

theorem length_thawAll (vs : List Value) : (thawAll vs).length = vs.length := by
  rw [thawAll_eq_map, List.length_map]

/-! ## Round trips -/

mutual

theorem isFrozen_freeze (v : Value) : v.freeze.isFrozen = true := by
  cases v with
  | seq k items => exact areFrozen_freezeAll items
  | _ => rfl

theorem areFrozen_freezeAll (vs : List Value) : areFrozen (freezeAll vs) = true := by
  cases vs with
  | nil => rfl
  | cons v rest =>
    rw [freezeAll, areFrozen, isFrozen_freeze v, areFrozen_freezeAll rest, Bool.and_self]

end

mutual

theorem freeze_thaw {v : Value} (frozen : v.isFrozen = true) : v.thaw.freeze = v := by
  cases v with
  | seq k items =>
    cases k with
    | list => cases frozen
    | tuple =>
      have items_frozen : areFrozen items = true := frozen
      rw [thaw, freeze, freezeAll_thawAll items_frozen]
  | _ => rfl

theorem freezeAll_thawAll {vs : List Value} (frozen : areFrozen vs = true) :
    freezeAll (thawAll vs) = vs := by
  cases vs with
  | nil => rfl
  | cons v rest =>
    obtain ⟨head, tail⟩ := Bool.and_eq_true_iff.mp frozen
    rw [thawAll, freezeAll, freeze_thaw head, freezeAll_thawAll tail]

end

mutual

theorem thaw_freeze (v : Value) : v.freeze.thaw = v.listed := by
  cases v with
  | seq k items => rw [freeze, thaw, listed, thawAll_freezeAll items]
  | _ => rfl

theorem thawAll_freezeAll (vs : List Value) : thawAll (freezeAll vs) = listedAll vs := by
  cases vs with
  | nil => rfl
  | cons v rest => rw [freezeAll, thawAll, listedAll, thaw_freeze v, thawAll_freezeAll rest]

end

end Rulebook.Value
