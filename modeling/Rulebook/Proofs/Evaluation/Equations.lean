import Rulebook.Proofs.Evaluation.Reach

/-!
The outcome of a rule from the outcomes of its parts. Main statements:
* `eval_both`: a connective asks about its right side exactly if its left side settles nothing;
* `run_key` to `run_both`: where answers depend on nothing but the question, the outcome of each
  kind of rule is computed from those of its parts, without any record of questions.
-/

namespace Rulebook

/-- What the left side of a connective settles by itself. -/
def Connective.settle (op : Connective) (left : Result) : Option Result :=
  match op, left with
  | .conjunction, .failure f => some (.failure f)
  | .disjunction, .success s => some (.success s)
  | .implication, .failure f => some (.success ⟨f.input, f.name, f.value⟩)
  | _, _ => none

open Evaluation

/-- The right side is about the subject of the left one, because this is what the left result
remembers. -/
theorem eval_both (oracle : Oracle) (op : Connective) (left right : Rule) (x : Value) :
    (Rule.both op left right).eval oracle x = (do
      let r ← left.eval oracle x
      match op.settle r with
      | some settled => return settled
      | none => right.eval oracle x) := by
  have joined : ∀ r : Result, r.input = x → (op.join r fun y => right.eval oracle y) =
      match op.settle r with
      | some settled => return settled
      | none => right.eval oracle x := by
    rintro r rfl
    cases op <;> cases r <;> rfl
  rw [Rule.eval]
  exact bind_congr_of_yields (input_of_eval oracle left x) joined

/-! ## Outcomes -/

namespace Evaluation

variable {α β : Type} {m : Evaluation α} {f : α → Evaluation β}

/-- What an evaluation comes to when nothing was asked before. -/
def outcome (m : Evaluation α) : Except Fault α := (after m []).1

theorem outcome_orFault (x : Except Fault α) : outcome (orFault x) = x := by
  rw [outcome, after_orFault]

theorem outcome_ask (answer : Call → Except Fault Bool) (c : Call) :
    outcome (ask (.ofAnswers answer) c) = answer c := by
  rw [outcome, after_ask]
  rfl

/-- The second of two evaluations finds a record of the first, which does not matter to it. -/
theorem outcome_bind (steady : ∀ a, Steady (f a)) :
    outcome (m >>= f) = outcome m >>= fun a => outcome (f a) := by
  unfold outcome
  cases first : after m [] with
  | mk ended asked =>
    cases ended with
    | error e =>
      rw [after_bind_error first]
      rfl
    | ok a =>
      rw [after_bind_ok first, steady a asked []]
      rfl

theorem outcome_map (g : α → β) : outcome (do return g (← m)) = (do return g (← outcome m)) :=
  outcome_bind fun _ => steady_pure _

end Evaluation

variable {answer : Call → Except Fault Bool} {x name : Value}

theorem outcome_failuresFrom {apply : Value → Evaluation Result} (steady : ∀ y, Steady (apply y))
    (index : Nat) (items : List Value) :
    outcome (failuresFrom apply index items) = (do
      let results ← items.mapM fun y => outcome (apply y)
      return (failing results index).map fun (i, f) => (.int i, f)) := by
  induction items generalizing index with
  | nil => rfl
  | cons y rest ih =>
    rw [failuresFrom, outcome_bind, List.mapM_cons, bind_assoc]
    · refine bind_congr fun r => ?_
      cases r with
      | success s =>
        simp only [Result.failure?, failing_cons, bind_pure, ih, bind_assoc, pure_bind]
      | failure f =>
        simp only [Result.failure?, failing_cons, outcome_map, ih, bind_assoc, pure_bind,
          List.map_cons]
    · intro r
      refine (steady_failuresFrom steady _ rest).bind fun failures => ?_
      cases r <;> exact steady_pure _

theorem outcome_evalFields (rules : List Rule) (x : Value) :
    outcome (Rule.evalFields (.ofAnswers answer) rules x) = (do
      let results ← rules.mapM fun rule => (rule.run (.ofAnswers answer) x).1
      return (results.filterMap Result.failure?).map fun f => (f.name, f)) := by
  induction rules with
  | nil => rfl
  | cons rule rest ih =>
    rw [Rule.evalFields, outcome_bind, List.mapM_cons, bind_assoc]
    · refine bind_congr fun r => ?_
      cases r with
      | success s =>
        simp only [Result.failure?, List.filterMap_cons, bind_pure, ih, bind_assoc, pure_bind]
      | failure f =>
        simp only [Result.failure?, List.filterMap_cons, outcome_map, ih, bind_assoc, pure_bind,
          List.map_cons]
    · intro r
      refine (steady_evalFields answer rest x).bind fun failures => ?_
      cases r <;> exact steady_pure _

/-! ## Rules -/

theorem run_key (p : Predicate) (arguments : List Value) :
    ((Rule.key name p arguments).run (.ofAnswers answer) x).1 = (do
      let held ← answer ⟨p, arguments ++ [name, x]⟩
      let subject ← fetch x name
      return if held then .success ⟨x, name, subject⟩
        else .failure
          { input := x, name, predicate := some p.id, arguments := p.bind (arguments ++ [name]),
            value := subject, kind := .key }) := by
  change outcome ((Rule.key name p arguments).eval (.ofAnswers answer) x) = _
  rw [Rule.eval, outcome_bind, outcome_ask, List.append_assoc]
  · refine bind_congr fun held => ?_
    rw [outcome_bind, outcome_orFault]
    · refine bind_congr fun subject => ?_
      cases held <;> rfl
    · intro subject
      cases held <;> exact steady_pure _
  · intro held
    refine (steady_orFault _).bind fun subject => ?_
    cases held <;> exact steady_pure _

theorem run_val (p : Predicate) (arguments : List Value) :
    ((Rule.val name p arguments).run (.ofAnswers answer) x).1 = (do
      let subject ← fetch x name
      let held ← answer ⟨p, arguments ++ [subject]⟩
      return if held then .success ⟨x, name, subject⟩
        else .failure
          { input := x, name, predicate := some p.id, arguments := p.bind arguments,
            value := subject }) := by
  change outcome ((Rule.val name p arguments).eval (.ofAnswers answer) x) = _
  rw [Rule.eval, outcome_bind, outcome_orFault]
  · refine bind_congr fun subject => ?_
    rw [outcome_bind, outcome_ask]
    · refine bind_congr fun held => ?_
      cases held <;> rfl
    · intro held
      cases held <;> exact steady_pure _
  · intro subject
    refine (steady_ask answer _).bind fun held => ?_
    cases held <;> exact steady_pure _

theorem run_each (rule : Rule) :
    ((Rule.each name rule).run (.ofAnswers answer) x).1 = (do
      let subject ← fetch x name
      match subject with
      | .seq _ items =>
        let results ← items.mapM fun y => (rule.run (.ofAnswers answer) y).1
        return gather x name subject .each ((failing results 0).map fun (i, f) => (.int i, f))
      | _ => return wrongShape x name UnaryTest.sequence.id subject) := by
  have elements := steady_failuresFrom (steady_eval answer rule) 0
  change outcome ((Rule.each name rule).eval (.ofAnswers answer) x) = _
  rw [Rule.eval, outcome_bind, outcome_orFault]
  · refine bind_congr fun subject => ?_
    cases subject with
    | seq kind items =>
      simp only [outcome_map, outcome_failuresFrom (steady_eval answer rule), bind_assoc, pure_bind]
      rfl
    | _ => rfl
  · intro subject
    split
    · exact (elements _).bind fun _ => steady_pure _
    · exact steady_pure _

theorem run_set (rules : List Rule) (single : Bool) :
    ((Rule.set name rules single).run (.ofAnswers answer) x).1 = (do
      let subject ← fetch x name
      match subject with
      | .map _ =>
        let results ← rules.mapM fun rule => (rule.run (.ofAnswers answer) subject).1
        return gather x name subject .set
          ((results.filterMap Result.failure?).map fun f => (f.name, f))
      | _ => return wrongShape x name UnaryTest.mapping.id subject) := by
  change outcome ((Rule.set name rules single).eval (.ofAnswers answer) x) = _
  rw [Rule.eval, outcome_bind, outcome_orFault]
  · refine bind_congr fun subject => ?_
    cases subject with
    | map entries => simp only [outcome_map, outcome_evalFields, bind_assoc, pure_bind]
    | _ => rfl
  · intro subject
    split
    · exact (steady_evalFields answer rules _).bind fun _ => steady_pure _
    · exact steady_pure _

theorem run_both (op : Connective) (left right : Rule) :
    ((Rule.both op left right).run (.ofAnswers answer) x).1 = (do
      let r ← (left.run (.ofAnswers answer) x).1
      match op.settle r with
      | some settled => return settled
      | none => (right.run (.ofAnswers answer) x).1) := by
  change outcome ((Rule.both op left right).eval (.ofAnswers answer) x) = _
  rw [eval_both, outcome_bind]
  · refine bind_congr fun r => ?_
    split <;> rfl
  · intro r
    split
    · exact steady_pure _
    · exact steady_eval answer right x

end Rulebook
