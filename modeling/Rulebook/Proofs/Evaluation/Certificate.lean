import Rulebook.Proofs.Compiler.Image
import Rulebook.Proofs.Evaluation.Reach

/-!
What a failure proves. `Fails` is the evaluation of a failing rule read backwards, for predicates
that answer in any way; `Certified` is what can be checked of a failure when answers depend on
nothing but the question. Main statements:
* `fails_of_reaches`: a failing rule fails through one of its parts, and the failure says which;
* `certified_of_fails`: the failure of a well-formed rule is a certificate, down to its leaves;
* `result_certified`: every result of a compiled rule tells the truth about its input.
-/

namespace Rulebook

open Evaluation

/-- How a rule comes to fail about a subject. The failure of a connective is that of the side that
decides it, unchanged; sequences and maps collect the failures of their parts. -/
inductive Fails (oracle : Oracle) : Rule → Value → Failure → Prop where
  | key {name : Value} {p : Predicate} {arguments : List Value} {x subject : Value}
      {before : List Call} (found : fetch x name = .ok subject)
      (denied : oracle before ⟨p, arguments ++ [name, x]⟩ = .ok false) :
      Fails oracle (.key name p arguments) x
        { input := x, name, predicate := some p.id, arguments := p.bind (arguments ++ [name]),
          value := subject, kind := .key }
  | val {name : Value} {p : Predicate} {arguments : List Value} {x subject : Value}
      {before : List Call} (found : fetch x name = .ok subject)
      (denied : oracle before ⟨p, arguments ++ [subject]⟩ = .ok false) :
      Fails oracle (.val name p arguments) x
        { input := x, name, predicate := some p.id, arguments := p.bind arguments,
          value := subject }
  | notSequence {name : Value} {rule : Rule} {x subject : Value}
      (found : fetch x name = .ok subject) (other : subject.isSeq = false) :
      Fails oracle (.each name rule) x
        { input := x, name, predicate := some UnaryTest.sequence.id, value := subject }
  | each {name : Value} {rule : Rule} {x : Value} {kind : SeqKind} {items : List Value}
      {results : List Result} (found : fetch x name = .ok (.seq kind items))
      (all : List.Forall₂ (fun y r => Reaches (rule.eval oracle y) r) items results)
      (nonempty : failing results 0 ≠ [])
      (failed : ∀ (i : Nat) (y : Value) (f : Failure), items[i]? = some y →
        results[i]? = some (.failure f) → Fails oracle rule y f) :
      Fails oracle (.each name rule) x
        { input := x, name, predicate := none, value := .seq kind items, kind := .each,
          children := (failing results 0).map fun (i, f) => (.int i, f) }
  | notMap {name : Value} {rules : List Rule} {single : Bool} {x subject : Value}
      (found : fetch x name = .ok subject) (other : subject.isMap = false) :
      Fails oracle (.set name rules single) x
        { input := x, name, predicate := some UnaryTest.mapping.id, value := subject }
  | set {name : Value} {rules : List Rule} {single : Bool} {x : Value}
      {entries : List (Value × Value)} {results : List Result}
      (found : fetch x name = .ok (.map entries))
      (all : List.Forall₂ (fun rule r => Reaches (rule.eval oracle (.map entries)) r) rules results)
      (nonempty : results.filterMap Result.failure? ≠ [])
      (failed : ∀ (i : Nat) (rule : Rule) (f : Failure), rules[i]? = some rule →
        results[i]? = some (.failure f) → Fails oracle rule (.map entries) f) :
      Fails oracle (.set name rules single) x
        { input := x, name, predicate := none, value := .map entries, kind := .set,
          children := (results.filterMap Result.failure?).map fun f => (f.name, f) }
  | left {left right : Rule} {x : Value} {f : Failure} (first : Fails oracle left x f) :
      Fails oracle (.both .conjunction left right) x f
  | right {op : Connective} {left right : Rule} {x : Value} {f : Failure}
      (second : Fails oracle right x f) :
      Fails oracle (.both op left right) x f

variable {oracle : Oracle}

theorem gather_eq_failure {x name subject : Value} {kind : FailureKind}
    {children : List (Value × Failure)} {f : Failure}
    (h : gather x name subject kind children = .failure f) :
    children ≠ [] ∧
      f = { input := x, name, predicate := none, value := subject, kind, children } := by
  unfold gather at h
  cases children with
  | nil => cases h
  | cons c rest =>
    cases h
    exact ⟨List.cons_ne_nil _ _, rfl⟩

/-- Lists that are related item by item are related at every position. -/
theorem rel_getElem? {α β : Type} {R : α → β → Prop} {as : List α} {bs : List β}
    (all : List.Forall₂ R as bs) (i : Nat) : Option.Rel R as[i]? bs[i]? := by
  induction all generalizing i with
  | nil => exact .none
  | cons first _ ih =>
    cases i with
    | zero => exact .some first
    | succ i => exact ih i

theorem exists_related {α β : Type} {R : α → β → Prop} {as : List α} {bs : List β}
    (all : List.Forall₂ R as bs) {i : Nat} {a : α} (left : as[i]? = some a) :
    ∃ b, bs[i]? = some b ∧ R a b := by
  have related := rel_getElem? all i
  rw [left] at related
  cases right : bs[i]? with
  | none => rw [right] at related; cases related
  | some b => rw [right] at related; cases related with | some h => exact ⟨b, rfl, h⟩

theorem related_of_getElem? {α β : Type} {R : α → β → Prop} {as : List α} {bs : List β}
    (all : List.Forall₂ R as bs) {i : Nat} {a : α} {b : β} (left : as[i]? = some a)
    (right : bs[i]? = some b) : R a b := by
  have related := rel_getElem? all i
  rw [left, right] at related
  cases related with
  | some h => exact h

mutual

theorem fails_of_reaches {rule : Rule} {x : Value} {f : Failure}
    (h : Reaches (rule.eval oracle x) (.failure f)) : Fails oracle rule x f := by
  match rule with
  | .key name p arguments =>
    obtain ⟨_, _, answer, denied, found, came⟩ := reaches_key h
    cases answer with
    | true => cases came
    | false =>
      cases came
      exact .key found denied
  | .val name p arguments =>
    obtain ⟨_, _, answer, found, denied, came⟩ := reaches_val h
    cases answer with
    | true => cases came
    | false =>
      cases came
      exact .val found denied
  | .each name rule =>
    rcases reaches_each h with ⟨_, _, _, found, all, came⟩ | ⟨_, found, other, came⟩
    · obtain ⟨nonempty, rfl⟩ := gather_eq_failure came.symm
      exact .each found all (fun none => nonempty (by rw [none]; rfl)) fun i y f item result =>
        fails_of_reaches (related_of_getElem? all item result)
    · cases came
      exact .notSequence found other
  | .set name rules single =>
    rcases reaches_set h with ⟨_, _, found, all, came⟩ | ⟨_, found, other, came⟩
    · obtain ⟨nonempty, rfl⟩ := gather_eq_failure came.symm
      exact .set found all (fun none => nonempty (by rw [none]; rfl)) fun i rule f =>
        fails_fields all
    · cases came
      exact .notMap found other
  | .both op left right =>
    rcases reaches_both h with ⟨came, rfl⟩ | ⟨_, _, came⟩ | came
    · exact .left (fails_of_reaches came)
    · cases came
    · exact .right (fails_of_reaches came)

theorem fails_fields {rules : List Rule} {x : Value} {results : List Result}
    (all : List.Forall₂ (fun rule r => Reaches (rule.eval oracle x) r) rules results) {i : Nat}
    {rule : Rule} {f : Failure} (nested : rules[i]? = some rule)
    (result : results[i]? = some (.failure f)) : Fails oracle rule x f := by
  match rules, results, all, i with
  | rule' :: _, _ :: _, .cons first others, 0 =>
    cases nested
    cases result
    exact fails_of_reaches first
  | _ :: _, _ :: _, .cons first others, i + 1 =>
    exact fails_fields others nested result

end

/-- A child of a failed sequence is the failure of an item, under its position. -/
theorem exists_failed_item {R : Value → Result → Prop} {items : List Value} {results : List Result}
    (all : List.Forall₂ R items results) {child : Value × Failure}
    (member : child ∈ (failing results 0).map fun (i, f) => (Value.int i, f)) :
    ∃ (i : Nat) (y : Value), items[i]? = some y ∧ results[i]? = some (.failure child.2) ∧
      child.1 = .int i := by
  obtain ⟨⟨i, f⟩, inside, rfl⟩ := List.mem_map.mp member
  have result := mem_failing_iff.mp inside
  obtain ⟨y, item, _⟩ := exists_related all.flip result
  exact ⟨i, y, item, result, rfl⟩

/-- A child of a failed map is the failure of a rule, under its own name. -/
theorem exists_failed_rule {R : Rule → Result → Prop} {rules : List Rule} {results : List Result}
    (all : List.Forall₂ R rules results) {child : Value × Failure}
    (member : child ∈ (results.filterMap Result.failure?).map fun f => (f.name, f)) :
    ∃ (i : Nat) (rule : Rule), rules[i]? = some rule ∧ results[i]? = some (.failure child.2) ∧
      child.1 = child.2.name := by
  obtain ⟨f, inside, rfl⟩ := List.mem_map.mp member
  obtain ⟨res, known, isFailure⟩ := List.mem_filterMap.mp inside
  obtain ⟨i, result⟩ := List.getElem?_of_mem known
  rw [Result.failure?_eq_some_iff.mp isFailure] at result
  obtain ⟨rule, nested, _⟩ := exists_related all.flip result
  exact ⟨i, rule, nested, result, rfl⟩

/-! ## Certificates -/

/-- A failed check that can be repeated: it has no parts, it records one argument for every
parameter of its predicate, and the predicate denies them again, followed by the whole input where a
key was checked and by the value otherwise. -/
structure Failure.Repeatable (r : Registry) (answer : Call → Except Fault Bool) (f : Failure) :
    Prop where
  kind : f.kind = .key ∨ f.kind = .val
  childless : f.children = []
  denied : ∃ p, f.predicate = some p.id ∧ r.get? p.id = some p ∧
    f.arguments.map (·.1) = p.parameters ∧
    answer ⟨p, f.arguments.map (·.2) ++ [if f.kind = .key then f.input else f.value]⟩ = .ok false

/-- What a failure of a rule about a subject certifies, for predicates whose answers depend on
nothing but the question. Every failure tells the subject and the value at its name. -/
inductive Certified (r : Registry) (answer : Call → Except Fault Bool) :
    Rule → Value → Failure → Prop where
  | check {rule : Rule} {x : Value} {f : Failure} (remembers : (Result.failure f).Remembers x)
      (about : f.name = rule.name) (repeatable : f.Repeatable r answer) :
      Certified r answer rule x f
  /-- The children are the failures of the element rule, under the positions of the elements. -/
  | each {name : Value} {rule : Rule} {x : Value} {f : Failure} {kind : SeqKind}
      {items : List Value} {failed : List (Nat × Failure)}
      (remembers : (Result.failure f).Remembers x) (about : f.name = name) (isEach : f.kind = .each)
      (noPredicate : f.predicate = none) (noArguments : f.arguments = [])
      (value : f.value = .seq kind items)
      (children : f.children = failed.map fun (i, g) => (.int i, g))
      (nonempty : failed ≠ []) (rising : failed.Pairwise fun a b => a.1 < b.1)
      (judged : ∀ y ∈ items, ∃ res, (rule.run (.ofAnswers answer) y).1 = .ok res)
      (exactly : ∀ i g, (i, g) ∈ failed ↔
        ∃ y, items[i]? = some y ∧ (rule.run (.ofAnswers answer) y).1 = .ok (.failure g))
      (certified : ∀ i y g, items[i]? = some y → (i, g) ∈ failed → Certified r answer rule y g) :
      Certified r answer (.each name rule) x f
  /-- The children are the failures of the rules for the map, in the order of the rules. -/
  | set {name : Value} {rules : List Rule} {single : Bool} {x : Value} {f : Failure}
      {entries : List (Value × Value)} {results : List Result}
      (remembers : (Result.failure f).Remembers x) (about : f.name = name) (isSet : f.kind = .set)
      (noPredicate : f.predicate = none) (noArguments : f.arguments = [])
      (value : f.value = .map entries)
      (judged : List.Forall₂
        (fun rule res => (rule.run (.ofAnswers answer) (.map entries)).1 = .ok res) rules results)
      (children : f.children = (results.filterMap Result.failure?).map fun g => (g.name, g))
      (nonempty : f.children ≠ [])
      (certified : ∀ (i : Nat) (rule : Rule) (g : Failure), rules[i]? = some rule →
        results[i]? = some (.failure g) → Certified r answer rule (.map entries) g) :
      Certified r answer (.set name rules single) x f
  | left {left right : Rule} {x : Value} {f : Failure} (first : Certified r answer left x f) :
      Certified r answer (.both .conjunction left right) x f
  | right {op : Connective} {left right : Rule} {x : Value} {f : Failure}
      (second : Certified r answer right x f) :
      Certified r answer (.both op left right) x f

/-- The tests for sequences and for maps are known and answer as usual. -/
structure TellsShapes (r : Registry) (answer : Call → Except Fault Bool) : Prop where
  sequence : ∃ p, r.get? UnaryTest.sequence.id = some p ∧ p.parameters = [] ∧
    ∀ v : Value, answer ⟨p, [v]⟩ = .ok v.isSeq
  mapping : ∃ p, r.get? UnaryTest.mapping.id = some p ∧ p.parameters = [] ∧
    ∀ v : Value, answer ⟨p, [v]⟩ = .ok v.isMap

theorem Rule.wellFormed_of_getElem? {c : Compiler} {rules : List Rule}
    (all : Rule.AllWellFormed c rules) {i : Nat} {rule : Rule} (found : rules[i]? = some rule) :
    rule.WellFormed c := by
  induction rules generalizing i with
  | nil => cases found
  | cons first rest ih =>
    cases i with
    | zero => exact Option.some.inj found ▸ all.1
    | succ i => exact ih all.2 found

/-- Nothing is dropped where names are paired with as many values. -/
theorem Predicate.names_bind {p : Predicate} {values : List Value}
    (count : values.length = p.arity) : (p.bind values).map (·.1) = p.parameters :=
  List.map_fst_zip (Nat.le_of_eq count.symm)

theorem Predicate.values_bind {p : Predicate} {values : List Value}
    (count : values.length = p.arity) : (p.bind values).map (·.2) = values :=
  List.map_snd_zip (Nat.le_of_eq count)

variable {r : Registry} {answer : Call → Except Fault Bool}

/-- A value of the wrong shape fails the test for the shape again. -/
theorem repeatable_of_shape {id : String} {x name subject : Value} {shape : Value → Bool}
    (tells : ∃ p, r.get? id = some p ∧ p.parameters = [] ∧
      ∀ v : Value, answer ⟨p, [v]⟩ = .ok (shape v)) (other : shape subject = false) :
    Failure.Repeatable r answer
      { input := x, name, predicate := some id, value := subject } := by
  obtain ⟨p, known, none, answers⟩ := tells
  have own : p.id = id := (Compiler.ofRegistry_lawful r).id_of_find known
  refine ⟨.inr rfl, rfl, p, congrArg some own.symm, own.symm ▸ known, none.symm, ?_⟩
  exact (answers subject).trans (congrArg _ other)

theorem certified_of_fails (shapes : TellsShapes r answer) {rule : Rule} {x : Value} {f : Failure}
    (fails : Fails (.ofAnswers answer) rule x f)
    (formed : rule.WellFormed (Compiler.ofRegistry r)) : Certified r answer rule x f := by
  induction fails with
  | @key name p arguments x subject before found denied =>
    obtain ⟨_, holds⟩ := formed
    have count : (arguments ++ [name]).length = p.arity := by
      rw [← holds.count, List.length_append, List.length_singleton, Nat.add_comm]
    refine .check ⟨rfl, found⟩ rfl
      ⟨.inl rfl, rfl, p, rfl, holds.known, Predicate.names_bind count, ?_⟩
    have asked : answer ⟨p, arguments ++ [name] ++ [x]⟩ = .ok false := by
      rw [List.append_assoc]
      exact denied
    rw [Predicate.values_bind count]
    exact asked
  | @val name p arguments x subject before found denied =>
    obtain ⟨_, holds⟩ := formed
    have count : arguments.length = p.arity := by rw [← holds.count, Nat.zero_add]
    refine .check ⟨rfl, found⟩ rfl
      ⟨.inr rfl, rfl, p, rfl, holds.known, Predicate.names_bind count, ?_⟩
    rw [Predicate.values_bind count]
    exact denied
  | notSequence found other =>
    exact .check ⟨rfl, found⟩ rfl (repeatable_of_shape shapes.sequence other)
  | @each name rule x kind items results found all nonempty failed ih =>
    refine .each ⟨rfl, found⟩ rfl rfl rfl rfl rfl rfl nonempty (pairwise_failing results 0)
      ?_ ?_ ?_
    · intro y member
      obtain ⟨i, item⟩ := List.getElem?_of_mem member
      obtain ⟨res, _, came⟩ := exists_related all item
      exact ⟨res, reaches_ofAnswers_iff.mp came⟩
    · intro i g
      rw [mem_failing_iff]
      constructor
      · intro result
        obtain ⟨y, item, came⟩ := exists_related all.flip result
        exact ⟨y, item, reaches_ofAnswers_iff.mp came⟩
      · rintro ⟨y, item, came⟩
        obtain ⟨res, result, came'⟩ := exists_related all item
        have same := (reaches_ofAnswers_iff.mp came').symm.trans came
        rw [result, Except.ok.inj same]
    · intro i y g item member
      exact ih i y g item (mem_failing_iff.mp member) formed.2
  | notMap found other =>
    exact .check ⟨rfl, found⟩ rfl (repeatable_of_shape shapes.mapping other)
  | @set name rules single x entries results found all nonempty failed ih =>
    refine .set ⟨rfl, found⟩ rfl rfl rfl rfl rfl ?_ rfl ?_ ?_
    · exact all.imp fun _ _ came => reaches_ofAnswers_iff.mp came
    · exact fun none => nonempty (List.map_eq_nil_iff.mp none)
    · intro i rule g nested result
      exact ih i rule g nested result (Rule.wellFormed_of_getElem? formed.2.2.2 nested)
  | left _ ih => exact .left (ih formed.1)
  | right _ ih => exact .right (ih formed.2)

/-- **Results tell the truth.** Where answers depend on nothing but the question, the result of a
compiled rule, a vacuous success included, tells the input and the value at its name, and a failure
is a certificate: its checks fail again, and its children are exactly the failures of the parts. -/
theorem result_certified (shapes : TellsShapes r answer) {node : Value} {rule : Rule}
    (compiled : (Compiler.ofRegistry r).compile node = .ok rule) {x : Value} {res : Result}
    (came : (rule.run (.ofAnswers answer) x).1 = .ok res) :
    res.input = x ∧ fetch x res.name = .ok res.value ∧
      ∀ f, res = .failure f → Certified r answer rule x f := by
  have reached : Reaches (rule.eval (.ofAnswers answer) x) res := reaches_ofAnswers_iff.mpr came
  obtain ⟨input, value⟩ := remembers_of_reaches reached
  refine ⟨input, value, ?_⟩
  rintro f rfl
  have formed := Compiler.wellFormed_of_compile (Compiler.ofRegistry_lawful r) compiled
  exact certified_of_fails shapes (fails_of_reaches reached) formed

/-- The answers of the standard tests. -/
def standardAnswer (c : Call) : Except Fault Bool :=
  match c.predicate.test with
  | .standard t => t.call c.arguments
  | .supplied _ => .error .unsupported

theorem tellsShapes_standard : TellsShapes .standard standardAnswer where
  sequence := ⟨.ofStandard (.unary .sequence), by decide +kernel, rfl, fun _ => rfl⟩
  mapping := ⟨.ofStandard (.unary .mapping), by decide +kernel, rfl, fun _ => rfl⟩

/-- A rule for the items of an order: there are some, and each has a name and one of two sizes. -/
def orderRule : Rule :=
  .both .conjunction (.key (.str "items") (.ofStandard (.binary .hasKey)) [])
    (.each (.str "items")
      (.set .null
        [.val (.str "name") (.ofStandard (.unary .text)) [],
          .val (.str "size") (.ofStandard (.binary .oneOf)) [.tuple [.int 1, .int 2]]] false))

theorem compile_orderRule :
    (Compiler.ofRegistry .standard).compile orderRule.toNode = .ok orderRule :=
  Compiler.compile_toNode (Compiler.ofRegistry_lawful .standard) (by decide +kernel)

/-- An order of which the second item has neither a name nor a size that is offered. -/
def brokenOrder : Value :=
  .map [(.str "items", .list
    [.map [(.str "name", .str "nut"), (.str "size", .int 1)],
      .map [(.str "name", .null), (.str "size", .int 3)]])]

theorem result_certified_brokenOrder :
    ∃ f, (orderRule.run (.ofAnswers standardAnswer) brokenOrder).1 = .ok (.failure f) ∧
      Certified .standard standardAnswer orderRule brokenOrder f := by
  refine ⟨_, rfl, ?_⟩
  exact (result_certified tellsShapes_standard compile_orderRule rfl).2.2 _ rfl

end Rulebook
