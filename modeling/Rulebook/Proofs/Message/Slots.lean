import Rulebook.Message.Resolver
import Rulebook.Proofs.Message.Interpolation

/-!
What templates may show. Main statements:
* `slots_eq_names`: the slots of a template are those at which it is cut;
* `exists_interpolate`: a template whose slots all have a value can be filled in;
* `Entry.get?_putArgument`: what a bound argument has a value under;
* `isSome_slotValues_of_name`, `isSome_slotValues_of_span`: the bound arguments of an entry have
  values under their names, and progressions under the names of their ends.
-/

namespace Rulebook

/-! ## Slots -/

namespace Template

/-- The names of the slots of a template. -/
def slots (template : String) : List String :=
  (pieces template.toList).filterMap fun
    | .slot name => some (String.ofList name)
    | .char _ => none

theorem slots_eq_names {cut : Cut} {template : String} (cuts : cut.Cuts template.toList) :
    slots template = cut.names := by
  have chars (text : List Char) : (text.map Piece.char).filterMap (fun
      | .slot name => some (String.ofList name)
      | .char _ => none) = [] := by
    simp
  rw [slots, Cut.pieces_of_cuts cuts, Cut.pieces, Cut.names, List.filterMap_append, chars,
    List.nil_append, List.filterMap_flatMap, List.map_eq_flatMap]
  exact List.flatMap_congr fun s _ => congrArg (String.ofList s.1 :: ·) (chars s.2)

theorem exists_interpolate {template : String} {values : OrderedMap String Value}
    (known : ∀ slot ∈ slots template, (values.get? slot).isSome = true) :
    ∃ text, interpolate template values = .ok text := by
  have cuts := Cut.cuts_ofPieces template.toList
  rw [slots_eq_names cuts] at known
  exact cuts.exists_interpolate_iff.mpr known

end Template

/-! ## What templates may show -/

namespace OrderedMap

variable {α β : Type} [DecidableEq α]

theorem isSome_get?_put {m : OrderedMap α β} {l : α} (known : (m.get? l).isSome = true) (k : α)
    (v : β) : ((m.put k v).get? l).isSome = true := by
  rw [get?_put]
  split
  · rfl
  · exact known

theorem isSome_get?_merge {a : OrderedMap α β} {k : α} (known : (a.get? k).isSome = true)
    (b : OrderedMap α β) : ((a.merge b).get? k).isSome = true := by
  unfold merge putAll
  induction b.entries generalizing a with
  | nil => exact known
  | cons e rest ih => exact ih (isSome_get?_put known e.1 e.2)

end OrderedMap

namespace Entry

/-- Puts a bound argument under its name, and a progression also under the names of its ends. -/
def putArgument (found : OrderedMap String Value) (a : String × Value) :
    OrderedMap String Value :=
  let found := found.put a.1 a.2
  match a.2 with
  | .atom (.span s) => (found.put "left" (.int s.left)).put "right" (.int s.right)
  | _ => found

theorem slotValues_eq (e : Entry) :
    e.slotValues =
      (e.arguments.foldl putArgument (OrderedMap.empty.put "value" e.value)).put "name" e.name :=
  rfl

/-- What a bound argument has under the names of ends. -/
def endOf : Value → String → Option Value
  | .atom (.span s), slot =>
    if slot = "right" then some (.int s.right)
    else if slot = "left" then some (.int s.left)
    else none
  | _, _ => none

theorem get?_putArgument (found : OrderedMap String Value) (parameter : String) (a : Value)
    (slot : String) :
    (putArgument found (parameter, a)).get? slot =
      (endOf a slot).or (if slot = parameter then some a else found.get? slot) := by
  unfold putArgument
  split
  · rename_i s isSpan
    cases isSpan
    simp only [OrderedMap.get?_put, endOf]
    by_cases right : slot = "right"
    · simp [right]
    · by_cases left : slot = "left"
      · simp [left]
      · simp [right, left]
  · rename_i other
    have noEnd : endOf a slot = none := by
      unfold endOf
      split
      · exact absurd rfl (other _)
      · rfl
    rw [noEnd, Option.none_or, OrderedMap.get?_put]

theorem isSome_get?_putArgument {found : OrderedMap String Value} {slot : String}
    (known : (found.get? slot).isSome = true) (a : String × Value) :
    ((putArgument found a).get? slot).isSome = true := by
  rw [get?_putArgument, Option.isSome_or]
  split
  · exact Bool.or_true _
  · rw [known, Bool.or_true]

theorem isSome_get?_putArgument_self (found : OrderedMap String Value) (a : String × Value) :
    ((putArgument found a).get? a.1).isSome = true := by
  rw [get?_putArgument, Option.isSome_or, if_pos rfl]
  exact Bool.or_true _

theorem isSome_get?_putArgument_span (found : OrderedMap String Value) (name : String) (s : Span)
    {slot : String} (isEnd : slot = "left" ∨ slot = "right") :
    ((putArgument found (name, .atom (.span s))).get? slot).isSome = true := by
  rw [get?_putArgument]
  rcases isEnd with rfl | rfl <;> rfl

theorem isSome_get?_foldl {found : OrderedMap String Value} {slot : String}
    (known : (found.get? slot).isSome = true) (arguments : List (String × Value)) :
    ((arguments.foldl putArgument found).get? slot).isSome = true := by
  induction arguments generalizing found with
  | nil => exact known
  | cons a rest ih => exact ih (isSome_get?_putArgument known a)

/-- What one argument gives a value to has a value in the end. -/
theorem isSome_slotValues {e : Entry} {a : String × Value} (member : a ∈ e.arguments)
    {slot : String} (given : ∀ found, ((putArgument found a).get? slot).isSome = true) :
    (e.slotValues.get? slot).isSome = true := by
  obtain ⟨before, after, split⟩ := List.append_of_mem member
  rw [slotValues_eq, split, List.foldl_append, List.foldl_cons]
  exact OrderedMap.isSome_get?_put (isSome_get?_foldl (given _) after) _ _

theorem isSome_slotValues_of_name {e : Entry} {slot : String}
    (named : slot ∈ e.arguments.map (·.1)) : (e.slotValues.get? slot).isSome = true := by
  obtain ⟨a, member, rfl⟩ := List.mem_map.mp named
  exact isSome_slotValues member fun found => isSome_get?_putArgument_self found a

theorem isSome_slotValues_of_span {e : Entry} {name slot : String} {s : Span}
    (member : (name, .atom (.span s)) ∈ e.arguments) (isEnd : slot = "left" ∨ slot = "right") :
    (e.slotValues.get? slot).isSome = true :=
  isSome_slotValues member fun found => isSome_get?_putArgument_span found name s isEnd

end Entry
end Rulebook
