import Rulebook.Predicate.Basic
import Rulebook.OrderedMap

/-!
Registries of predicates, each under its own name. A registry lists names in the order in which they
were first supplied; supplying a name again replaces its predicate in place. Main statements:
* `ids_add`: adding a predicate keeps the names as they are or appends a new one;
* `get?_add`: a name finds the predicate that was last added under it.
-/

namespace Rulebook

/-- Puts a predicate in the place of the one with its name, or at the end. -/
def replacing (p : Predicate) : List Predicate → List Predicate
  | [] => [p]
  | q :: rest => if q.id = p.id then p :: rest else q :: replacing p rest

theorem ids_replacing (p : Predicate) (ps : List Predicate) :
    (replacing p ps).map (·.id) =
      if p.id ∈ ps.map (·.id) then ps.map (·.id) else ps.map (·.id) ++ [p.id] := by
  induction ps with
  | nil => simp [replacing]
  | cons q rest ih =>
    by_cases h : q.id = p.id
    · simp [replacing, h]
    · have h' : p.id ≠ q.id := fun e => h e.symm
      simp only [replacing, if_neg h, List.map_cons, ih, List.mem_cons, h', false_or]
      split <;> simp

theorem nodup_ids_replacing (p : Predicate) {ps : List Predicate} (h : (ps.map (·.id)).Nodup) :
    ((replacing p ps).map (·.id)).Nodup := by
  rw [ids_replacing]
  split
  · exact h
  · rename_i new
    exact List.nodup_append.2 ⟨h, by simp, fun a ha b hb => by
      rw [List.mem_singleton.1 hb]; exact fun e => new (e ▸ ha)⟩

/-- Predicates with pairwise different names. -/
structure Registry where
  predicates : List Predicate
  nodup : (predicates.map (·.id)).Nodup
  deriving DecidableEq

namespace Registry

def empty : Registry := ⟨[], List.nodup_nil⟩

/-- The names in the order of first supply. -/
def ids (r : Registry) : List String := r.predicates.map (·.id)

def size (r : Registry) : Nat := r.predicates.length

/-- The predicate under a name. -/
def get? (r : Registry) (id : String) : Option Predicate := r.predicates.find? (·.id = id)

/-- Supplies a predicate under its name. -/
def add (r : Registry) (p : Predicate) : Registry :=
  ⟨replacing p r.predicates, nodup_ids_replacing p r.nodup⟩

/-- Supplies predicates one after another. -/
def addAll (r : Registry) (ps : List Predicate) : Registry := ps.foldl add r

def ofList (ps : List Predicate) : Registry := empty.addAll ps

/-- The registry of the standard tests. -/
def standard : Registry := ofList (StandardTest.all.map .ofStandard)

theorem find?_replacing (p : Predicate) (ps : List Predicate) (id : String) :
    (replacing p ps).find? (·.id = id) = if p.id = id then some p else ps.find? (·.id = id) := by
  induction ps with
  | nil => by_cases h : p.id = id <;> simp [replacing, h]
  | cons q rest ih => grind [replacing]

theorem get?_add (r : Registry) (p : Predicate) (id : String) :
    (r.add p).get? id = if p.id = id then some p else r.get? id :=
  find?_replacing p r.predicates id

/-- The name under which a function is registered: with a question mark at the end. -/
def functionId (name : String) : String := if name.endsWith "?" then name else name ++ "?"

/-- Whether two registries have the same predicates under the same names, in any order. -/
def sameContents (a b : Registry) : Bool :=
  a.size = b.size && a.predicates.all fun p => b.get? p.id = some p

end Registry

/-- A function to be registered under a name. -/
structure SuppliedFunction where
  name : String
  test : Test
  parameters : List Parameter

/-- Why a function cannot serve as a predicate. -/
inductive SupplyError where
  /-- It takes no subject. -/
  | noSubject (id : String)
  /-- The name belongs to the registry itself. -/
  | reservedName
  deriving DecidableEq, Repr

def SupplyError.message : SupplyError → String
  | .noSubject id => "Predicate '" ++ id ++ "' must accept at least the subject argument"
  | .reservedName => ""

namespace Predicate

def ofFunction (id : String) (test : Test) (parameters : List Parameter) :
    Except SupplyError Predicate :=
  match ofFunction? id test parameters with
  | some p => .ok p
  | none => .error (.noSubject id)

end Predicate

namespace Registry

/-- The name by which a registry speaks of itself; no function can be supplied under it. -/
def reservedName : String := "self"

/-- Supplies predicates and after them functions, each under its name with a question mark. Of
functions with one name the last one counts. -/
def extend (r : Registry) (ps : List Predicate) (fs : List SuppliedFunction) :
    Except SupplyError Registry :=
  let named := OrderedMap.ofList (fs.map fun f => (f.name, f))
  if reservedName ∈ named.keys then .error .reservedName
  else
    named.entries.foldlM
      (fun r (name, f) => do
        return r.add (← Predicate.ofFunction (functionId name) f.test f.parameters))
      (r.addAll ps)

end Registry
end Rulebook
