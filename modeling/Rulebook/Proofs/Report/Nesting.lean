import Rulebook.Proofs.Report.Account

/-!
The nesting of a document and that of the input. A failed check has a route, which is the way of the
evaluation from the input to the value that it denied; a document lists the check at the end of a
path. Main statements:
* `follow_routes`: the route of a failed check leads to its value;
* `checks_eq_abridge`: the path is the route without the names of element rules, and with the
  nearest name again where a rule without a name stands inside a map;
* `document_nesting`: so the path leads to the value where no rule is of these two kinds;
* `elementName_lost`, `fieldName_repeated`: one rule of each kind, and an entry that is not in the
  place of its value.
-/

namespace Rulebook

open Evaluation

/-! ## Ways through a value -/

namespace Value

/-- The part of a value that a step leads to. Null stays where it is, and what is not there is
absent. -/
def part (v : Value) : Step → Value
  | .field name =>
    if name.isNull then v else (v.entries?.bind (Value.lookup name)).getD .absent
  | .position (.int (.ofNat i)) => (v.items?.bind (·[i]?)).getD .absent
  | .position _ => .absent

/-- The part of a value at the end of some steps. -/
def follow (v : Value) (steps : List Step) : Value := steps.foldl part v

theorem follow_cons (v : Value) (step : Step) (steps : List Step) :
    v.follow (step :: steps) = (v.part step).follow steps := rfl

theorem part_field (v name : Value) :
    v.part (.field name) =
      if name.isNull then v else (v.entries?.bind (Value.lookup name)).getD .absent := rfl

theorem part_of_isNull (v : Value) {name : Value} (null : name.isNull = true) :
    v.part (.field name) = v :=
  if_pos null

theorem part_position {kind : SeqKind} {items : List Value} {i : Nat} {y : Value}
    (item : items[i]? = some y) : (Value.seq kind items).part (.position (.int i)) = y := by
  change (items[i]?).getD .absent = y
  rw [item, Option.getD_some]

end Value

theorem part_of_fetch {x name subject : Value} (found : fetch x name = .ok subject) :
    x.part (.field name) = subject := by
  unfold fetch at found
  rw [Value.part_field]
  split at found
  case isTrue null =>
    rw [if_pos null]
    exact Except.ok.inj found
  case isFalse null =>
    rw [if_neg null]
    split at found
    case h_1 entries =>
      split at found
      · exact Except.ok.inj found
      · cases found
    case h_2 other =>
      cases x with
      | map entries => exact absurd rfl (other entries)
      | _ => exact Except.ok.inj found

/-! ## Routes -/

namespace Failure

mutual

/-- The failed checks below a failure in order, each with the way that the evaluation took to it
from the input of the failure: at every rule the step to its name, and in a sequence that to an
item. -/
def routes : Failure → List (List Step × Failure)
  | ⟨x, name, predicate, arguments, value, kind, children⟩ =>
    if children.isEmpty then
      [([.field name], ⟨x, name, predicate, arguments, value, kind, children⟩)]
    else (routesOf kind children).map fun r => (.field name :: r.1, r.2)

def routesOf (kind : FailureKind) : List (Value × Failure) → List (List Step × Failure)
  | [] => []
  | (label, f) :: rest =>
    f.routes.map (fun r => (if kind = .each then .position label :: r.1 else r.1, r.2))
      ++ routesOf kind rest

end

theorem routes_of_childless {f : Failure} (childless : f.children = []) :
    f.routes = [([.field f.name], f)] := by
  cases f
  exact if_pos (List.isEmpty_iff.mpr childless)

theorem routes_of_children {f : Failure} (nonempty : f.children ≠ []) :
    f.routes = (routesOf f.kind f.children).map fun r => (.field f.name :: r.1, r.2) := by
  cases f
  exact if_neg (by simpa using nonempty)

theorem routesOf_eq_flatMap (kind : FailureKind) (children : List (Value × Failure)) :
    routesOf kind children = children.flatMap fun child => child.2.routes.map fun r =>
      (if kind = .each then .position child.1 :: r.1 else r.1, r.2) := by
  induction children with
  | nil => rfl
  | cons child rest ih => rw [routesOf, ih, List.flatMap_cons]

theorem exists_of_mem_routes {f : Failure} (nonempty : f.children ≠ []) {r : List Step × Failure}
    (member : r ∈ f.routes) :
    ∃ child ∈ f.children, ∃ r' ∈ child.2.routes,
      r = (.field f.name :: if f.kind = .each then .position child.1 :: r'.1 else r'.1, r'.2) := by
  rw [routes_of_children nonempty, routesOf_eq_flatMap] at member
  obtain ⟨_, inside, rfl⟩ := List.mem_map.mp member
  obtain ⟨child, isChild, inside⟩ := List.mem_flatMap.mp inside
  obtain ⟨r', member', rfl⟩ := List.mem_map.mp inside
  exact ⟨child, isChild, r', member', rfl⟩

/-- A route starts with the name of the failure. -/
theorem exists_route_eq_cons {f : Failure} {r : List Step × Failure} (member : r ∈ f.routes) :
    ∃ rest, r.1 = .field f.name :: rest := by
  by_cases childless : f.children = []
  · rw [routes_of_childless childless] at member
    cases List.mem_singleton.mp member
    exact ⟨[], rfl⟩
  · obtain ⟨_, _, _, _, rfl⟩ := exists_of_mem_routes childless member
    exact ⟨_, rfl⟩

end Failure

/-- **Routes lead to values.** The way of the evaluation to a failed check ends at its value. -/
theorem follow_routes {oracle : Oracle} {rule : Rule} {x : Value} {f : Failure}
    (fails : Fails oracle rule x f) {r : List Step × Failure} (member : r ∈ f.routes) :
    x.follow r.1 = r.2.value := by
  induction fails generalizing r with
  | key found _ =>
    cases List.mem_singleton.mp member
    exact part_of_fetch found
  | val found _ =>
    cases List.mem_singleton.mp member
    exact part_of_fetch found
  | notSequence found _ =>
    cases List.mem_singleton.mp member
    exact part_of_fetch found
  | notMap found _ =>
    cases List.mem_singleton.mp member
    exact part_of_fetch found
  | @each name rule x kind items results found all nonempty failed ih =>
    obtain ⟨child, isChild, r', member', rfl⟩ :=
      Failure.exists_of_mem_routes (by simpa using nonempty) member
    obtain ⟨i, y, item, result, label⟩ := exists_failed_item all isChild
    calc x.follow (.field name :: .position child.1 :: r'.1)
        = (Value.seq kind items).follow (.position (.int i) :: r'.1) := by
          rw [Value.follow_cons, part_of_fetch found, label]
      _ = y.follow r'.1 := by rw [Value.follow_cons, Value.part_position item]
      _ = r'.2.value := ih i y child.2 item result member'
  | @set name rules single x entries results found all nonempty failed ih =>
    obtain ⟨child, isChild, r', member', rfl⟩ :=
      Failure.exists_of_mem_routes (by simpa using nonempty) member
    obtain ⟨i, rule, nested, result, _⟩ := exists_failed_rule all isChild
    calc x.follow (.field name :: r'.1)
        = (Value.map entries).follow r'.1 := by rw [Value.follow_cons, part_of_fetch found]
      _ = r'.2.value := ih i rule child.2 nested result member'
  | left _ ih => exact ih member
  | right _ ih => exact ih member

/-! ## Paths -/

/-- What a document keeps of a route below a name: an element rule has no step of its own, and a
rule without a name has that around it. The flag tells that the steps start at an element. -/
def abridge (around : Value) (element : Bool) : List Step → List Step
  | [] => []
  | .field name :: rest =>
    if element then abridge around false rest
    else .field (ownName around name) :: abridge (ownName around name) false rest
  | .position index :: rest => .position index :: abridge around true rest

namespace Failure

theorem checks_eq_abridge {f : Failure} (shaped : f.Shaped) (around : Value) :
    f.checks around = f.routes.map fun r => (abridge around true r.1, r.2) := by
  induction shaped generalizing around with
  | check _ _ childless _ =>
    rw [checks_of_childless childless, routes_of_childless childless]
    rfl
  | @each f _ _ isEach nonempty _ _ _ ih =>
    rw [checks_of_children nonempty, routes_of_children nonempty, checksOf_eq_flatMap,
      routesOf_eq_flatMap, List.map_map, List.map_flatMap]
    refine List.flatMap_congr fun child member => ?_
    rw [isEach, List.map_map]
    change (child.2.checks around).map _ = _
    rw [ih child member, List.map_map]
    rfl
  | @set f _ isSet nonempty labels _ ih =>
    rw [checks_of_children nonempty, routes_of_children nonempty, checksOf_eq_flatMap,
      routesOf_eq_flatMap, List.map_map, List.map_flatMap]
    refine List.flatMap_congr fun child member => ?_
    rw [isSet, List.map_map]
    change (child.2.checks (ownName around child.1)).map _ = _
    rw [ih child member, List.map_map, labels child member]
    -- The step to the child has the place of the child's own name, with which its routes start.
    refine List.map_congr_left fun r isRoute => ?_
    obtain ⟨rest, start⟩ := exists_route_eq_cons isRoute
    simp [start, abridge, stepTo]

end Failure

/-! ## Rules in place -/

/-- Whether a name keeps its place in a document: at an element it has to be null, and elsewhere it
can only be null if there is no name around it. -/
def keepsPlace (element named : Bool) (name : Value) : Bool :=
  if element then name.isNull else !name.isNull || !named

namespace Rule

mutual

/-- Whether all names in a rule keep their places, given whether the rule is about the elements of a
sequence and whether there is a name around it. -/
def inPlace (element named : Bool) : Rule → Bool
  | .key name _ _ | .val name _ _ => keepsPlace element named name
  | .each name rule => keepsPlace element named name && rule.inPlace true (named || !name.isNull)
  | .set name rules _ => keepsPlace element named name && allInPlace (named || !name.isNull) rules
  | .both _ left right => left.inPlace element named && right.inPlace element named

def allInPlace (named : Bool) : List Rule → Bool
  | [] => true
  | rule :: rest => rule.inPlace false named && allInPlace named rest

end

theorem inPlace_of_getElem? {named : Bool} {rules : List Rule}
    (all : allInPlace named rules = true) {i : Nat} {rule : Rule} (found : rules[i]? = some rule) :
    rule.inPlace false named = true := by
  induction rules generalizing i with
  | nil => cases found
  | cons first rest ih =>
    obtain ⟨here, others⟩ := Bool.and_eq_true_iff.mp all
    cases i with
    | zero => exact Option.some.inj found ▸ here
    | succ i => exact ih others found

end Rule

/-- Steps of which a document keeps all that matters. -/
def Plain (around : Value) (element : Bool) : List Step → Prop
  | [] => True
  | .field name :: rest =>
    keepsPlace element (!around.isNull) name = true ∧ Plain (ownName around name) false rest
  | .position _ :: rest => Plain around true rest

theorem follow_abridge {steps : List Step} {around : Value} {element : Bool}
    (plain : Plain around element steps) (v : Value) :
    v.follow (abridge around element steps) = v.follow steps := by
  induction steps generalizing around element v with
  | nil => rfl
  | cons step rest ih =>
    cases step with
    | position index => exact ih plain _
    | field name =>
      obtain ⟨kept, others⟩ := plain
      -- The name of an element rule is dropped, which is right for null; any other name is kept or
      -- replaced by the one around it, which is right where both are null.
      cases element with
      | true =>
        have null : name.isNull = true := kept
        rw [ownName_of_isNull null] at others
        calc v.follow (abridge around false rest)
            = v.follow rest := ih others v
          _ = v.follow (.field name :: rest) := by
            rw [Value.follow_cons, Value.part_of_isNull v null]
      | false =>
        have same : v.part (.field (ownName around name)) = v.part (.field name) := by
          cases null : name.isNull with
          | false => rw [ownName_of_isNull_eq_false null]
          | true =>
            have outer : around.isNull = true := by simpa [keepsPlace, null] using kept
            rw [ownName_of_isNull null, Value.part_of_isNull v outer, Value.part_of_isNull v null]
        calc v.follow (.field (ownName around name) :: abridge (ownName around name) false rest)
            = (v.part (.field name)).follow (abridge (ownName around name) false rest) := by
              rw [Value.follow_cons, same]
          _ = v.follow (.field name :: rest) := ih others _

theorem ownName_null (name : Value) : ownName .null name = name := by
  cases null : name.isNull with
  | false => exact ownName_of_isNull_eq_false null _
  | true => rw [ownName_of_isNull null, Value.eq_null_of_isNull null]

theorem isNull_ownName (name around : Value) :
    (!(ownName around name).isNull) = (!around.isNull || !name.isNull) := by
  cases null : name.isNull with
  | false => simp [ownName_of_isNull_eq_false null, null]
  | true => simp [ownName_of_isNull null]

theorem plain_routes {oracle : Oracle} {rule : Rule} {x : Value} {f : Failure}
    (fails : Fails oracle rule x f) {element : Bool} {around : Value}
    (inPlace : rule.inPlace element (!around.isNull) = true) {r : List Step × Failure}
    (member : r ∈ f.routes) : Plain around element r.1 := by
  -- A failure without children has a route of one step; elsewhere the name around the parts is that
  -- of the rule or, if it has none, the one around the rule.
  induction fails generalizing element around r with
  | key _ _ =>
    cases List.mem_singleton.mp member
    exact ⟨inPlace, trivial⟩
  | val _ _ =>
    cases List.mem_singleton.mp member
    exact ⟨inPlace, trivial⟩
  | notSequence _ _ =>
    cases List.mem_singleton.mp member
    exact ⟨(Bool.and_eq_true_iff.mp inPlace).1, trivial⟩
  | notMap _ _ =>
    cases List.mem_singleton.mp member
    exact ⟨(Bool.and_eq_true_iff.mp inPlace).1, trivial⟩
  | @each name rule x kind items results found all nonempty failed ih =>
    obtain ⟨child, isChild, r', member', rfl⟩ :=
      Failure.exists_of_mem_routes (by simpa using nonempty) member
    obtain ⟨i, y, item, result, _⟩ := exists_failed_item all isChild
    obtain ⟨here, inner⟩ := Bool.and_eq_true_iff.mp inPlace
    rw [← isNull_ownName] at inner
    exact ⟨here, ih i y child.2 item result inner member'⟩
  | @set name rules single x entries results found all nonempty failed ih =>
    obtain ⟨child, isChild, r', member', rfl⟩ :=
      Failure.exists_of_mem_routes (by simpa using nonempty) member
    obtain ⟨i, rule, nested, result, _⟩ := exists_failed_rule all isChild
    obtain ⟨here, inner⟩ := Bool.and_eq_true_iff.mp inPlace
    rw [← isNull_ownName] at inner
    exact ⟨here, ih i rule child.2 nested result (Rule.inPlace_of_getElem? inner nested) member'⟩
  | left _ ih => exact ih (Bool.and_eq_true_iff.mp inPlace).1 member
  | right _ ih => exact ih (Bool.and_eq_true_iff.mp inPlace).2 member

/-! ## Documents -/

theorem document_of_failure {f : Failure} (shaped : f.Shaped)
    (obtained : (Result.failure f).Obtained) :
    Document.ofResults [.failure f] = .ok [(f.name, f.report f.name)] := by
  have one : ∀ r ∈ [Result.failure f], r.Obtained := List.forall_mem_singleton.mpr obtained
  have named : AreNames [f.name] := List.forall_mem_singleton.mpr shaped.named
  rw [Document.ofResults_eq_grouped one]
  exact congrArg _ (Fields.grouped_eq_self named (List.pairwise_singleton _ _))

/-- **The nesting of a document.** The entries of the document of a failure are, in order, the
checks at the ends of the routes that the evaluation took through the input. The route leads to the
value of the entry; the keys of the entry are the route abridged. Where all names of a rule keep
their places, the keys lead to the value as well. -/
theorem document_nesting {registry : Registry} {node : Value} {rule : Rule}
    (compiled : (Compiler.ofRegistry registry).compile node = .ok rule) {oracle : Oracle}
    {x : Value} {f : Failure} (came : (rule.run oracle x).1 = .ok (.failure f)) :
    ∃ items, Document.ofResults [.failure f] = .ok [(f.name, items)] ∧
      List.Forall₂
        (fun l r => f.name :: l.1 = (abridge .null false r.1).map Step.key ∧
          x.follow r.1 = l.2.value ∧
          (rule.inPlace false false = true → x.follow (abridge .null false r.1) = l.2.value))
        (Report.leavesOfItems items) f.routes := by
  have obtained : (Result.failure f).Obtained := ⟨registry, node, rule, oracle, x, compiled, came⟩
  have shaped := shaped_of_obtained obtained
  have fails : Fails oracle rule x f := fails_of_reaches ⟨[], came⟩
  refine ⟨_, document_of_failure shaped obtained, ?_⟩
  rw [Failure.leaves_report shaped, Failure.checks_eq_abridge shaped, List.map_map,
    List.forall₂_map_left_iff, List.forall₂_same]
  intro r member
  have value : x.follow r.1 = r.2.value := follow_routes fails member
  refine ⟨?_, value, fun inPlace => ?_⟩
  · obtain ⟨rest, start⟩ := Failure.exists_route_eq_cons member
    simp [Failure.told, start, abridge, ownName_null, Step.key]
  · have plain : Plain .null false r.1 := plain_routes fails inPlace member
    exact (follow_abridge plain x).trans value

/-- The names of the items of an order keep their places, so the entries lead to what is wrong. -/
theorem document_nesting_brokenOrder :
    orderRule.inPlace false false = true ∧
      ∃ f items, (orderRule.run (.ofAnswers standardAnswer) brokenOrder).1 = .ok (.failure f) ∧
        Document.ofResults [.failure f] = .ok [(.str "items", items)] ∧
        List.Forall₂ (fun l r => brokenOrder.follow (abridge .null false r.1) = l.2.value)
          (Report.leavesOfItems items) f.routes := by
  have inPlace : orderRule.inPlace false false = true := by decide
  have came : ∃ f, (orderRule.run (.ofAnswers standardAnswer) brokenOrder).1 = .ok (.failure f) ∧
      f.name = .str "items" := ⟨_, rfl, rfl⟩
  obtain ⟨f, came, name⟩ := came
  obtain ⟨items, made, all⟩ := document_nesting compile_orderRule came
  rw [name] at made
  exact ⟨inPlace, f, items, came, made, all.imp fun _ _ both => both.2.2 inPlace⟩

/-- A rule for one field of every item: the entry stands at the item and not at the field. -/
theorem elementName_lost :
    let rule := Rule.each (.str "tags") (.val (.str "b") (.ofStandard (.unary .text)) [])
    let x := Value.map [(.str "tags", .list [.map [(.str "b", .int 1)]])]
    (Compiler.ofRegistry .standard).compile rule.toNode = .ok rule ∧
      ∃ f e, (rule.run (.ofAnswers standardAnswer) x).1 = .ok (.failure f) ∧
        Document.ofResults [.failure f] =
          .ok [(.str "tags", [.nested [(.int 0, [.leaf e])]])] ∧
        e.value = .int 1 ∧
        x.follow [.field (.str "tags"), .position (.int 0)] = .map [(.str "b", .int 1)] := by
  refine ⟨?_, _, _, rfl, rfl, rfl, ?_⟩
  · exact Compiler.compile_toNode (Compiler.ofRegistry_lawful .standard) (by decide +kernel)
  · rfl

/-- A rule without a name in a map with one: the entry stands at a field that is not there. -/
theorem fieldName_repeated :
    let rule := Rule.set (.str "address") [.val .null (.ofStandard (.unary .empty)) []] false
    let x := Value.map [(.str "address", .map [(.str "b", .int 1)])]
    (Compiler.ofRegistry .standard).compile rule.toNode = .ok rule ∧
      ∃ f e, (rule.run (.ofAnswers standardAnswer) x).1 = .ok (.failure f) ∧
        Document.ofResults [.failure f] =
          .ok [(.str "address", [.nested [(.str "address", [.leaf e])]])] ∧
        e.value = .map [(.str "b", .int 1)] ∧
        x.follow [.field (.str "address"), .field (.str "address")] = .absent := by
  refine ⟨?_, _, _, rfl, rfl, rfl, ?_⟩
  · exact Compiler.compile_toNode (Compiler.ofRegistry_lawful .standard) (by decide +kernel)
  · rfl

end Rulebook
