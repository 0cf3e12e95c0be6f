import Rulebook.Proofs.Schema.Verdict

/-!
Joined rules that say the same. Main statements:
* `eval_of_regrouped`: regrouping a conjunction, a disjunction or the antecedent of an implication
  changes no evaluation, whatever predicates answer;
* `run_of_distributed`: conjunction and disjunction distribute over each other where answers depend
  on nothing but the question;
* `rearranging_unseen`: so a schema comes to the same verdict when any of its parts is rearranged.
-/

namespace Rulebook

open Evaluation

namespace Rule

/-- Three rules joined in one grouping and in the other. -/
inductive Regrouped : Rule → Rule → Prop where
  | conjunction (a b c : Rule) :
      Regrouped (.both .conjunction (.both .conjunction a b) c)
        (.both .conjunction a (.both .conjunction b c))
  | disjunction (a b c : Rule) :
      Regrouped (.both .disjunction (.both .disjunction a b) c)
        (.both .disjunction a (.both .disjunction b c))
  | antecedent (a b c : Rule) :
      Regrouped (.both .implication (.both .conjunction a b) c)
        (.both .implication a (.both .implication b c))

/-- A rule joined with two others at once and with each of them. -/
inductive Distributed : Rule → Rule → Prop where
  | conjunction (a b c : Rule) :
      Distributed (.both .conjunction a (.both .disjunction b c))
        (.both .disjunction (.both .conjunction a b) (.both .conjunction a c))
  | disjunction (a b c : Rule) :
      Distributed (.both .disjunction a (.both .conjunction b c))
        (.both .conjunction (.both .disjunction a b) (.both .disjunction a c))

/-- Two rules that differ by uses of a law, in either direction and at any places inside them. -/
inductive Rearranged (law : Rule → Rule → Prop) : Rule → Rule → Prop where
  | here {r r' : Rule} (same : law r r') : Rearranged law r r'
  | each {r r' : Rule} (name : Value) (inner : Rearranged law r r') :
      Rearranged law (.each name r) (.each name r')
  | set {r r' : Rule} (name : Value) (before after : List Rule) (single : Bool)
      (inner : Rearranged law r r') :
      Rearranged law (.set name (before ++ r :: after) single)
        (.set name (before ++ r' :: after) single)
  | left {r r' : Rule} (op : Connective) (right : Rule) (inner : Rearranged law r r') :
      Rearranged law (.both op r right) (.both op r' right)
  | right {r r' : Rule} (op : Connective) (left : Rule) (inner : Rearranged law r r') :
      Rearranged law (.both op left r) (.both op left r')
  | refl (r : Rule) : Rearranged law r r
  | symm {r r' : Rule} (back : Rearranged law r' r) : Rearranged law r r'
  | trans {r r' r'' : Rule} (first : Rearranged law r r') (second : Rearranged law r' r'') :
      Rearranged law r r''

/-! ## Regrouping -/

/-- In both groupings the rules are asked about one after another, and the first one that settles
the outcome settles it in the same way. -/
theorem eval_of_regrouped {r r' : Rule} (same : Regrouped r r') (oracle : Oracle) :
    r.eval oracle = r'.eval oracle := by
  funext x
  cases same
  all_goals
    rw [eval_both, eval_both, eval_both, bind_assoc]
    refine bind_congr fun first => ?_
    cases first <;> simp [Connective.settle, eval_both]

theorem evalFields_congr {oracle : Oracle} {r r' : Rule} (same : r.eval oracle = r'.eval oracle)
    (before after : List Rule) (x : Value) :
    evalFields oracle (before ++ r :: after) x = evalFields oracle (before ++ r' :: after) x := by
  induction before with
  | nil => rw [List.nil_append, List.nil_append, evalFields, evalFields, same]
  | cons first rest ih => rw [List.cons_append, List.cons_append, evalFields, evalFields, ih]

theorem eval_of_rearranged {r r' : Rule} (same : Rearranged Regrouped r r') (oracle : Oracle) :
    r.eval oracle = r'.eval oracle := by
  induction same with
  | here same => exact eval_of_regrouped same oracle
  | each name _ ih =>
    funext x
    rw [eval, eval, ih]
  | set name before after single _ ih =>
    funext x
    simp only [eval, evalFields_congr ih]
  | left op right _ ih =>
    funext x
    rw [eval, eval, ih]
  | right op left _ ih =>
    funext x
    rw [eval, eval, ih]
  | refl r => rfl
  | symm _ ih => exact ih.symm
  | trans _ _ first second => exact first.trans second

/-! ## Distributing -/

variable {answer : Call → Except Fault Bool}

/-- The rule that stands twice on one side comes to the same result when it is asked about again. -/
theorem run_of_distributed {r r' : Rule} (same : Distributed r r') (x : Value) :
    (r.run (.ofAnswers answer) x).1 = (r'.run (.ofAnswers answer) x).1 := by
  cases same with
  | conjunction a b c =>
    simp only [run_both]
    cases (a.run (.ofAnswers answer) x).1 with
    | error e => rfl
    | ok first =>
      cases first with
      | failure f => rfl
      | success s =>
        cases (b.run (.ofAnswers answer) x).1 with
        | error e => rfl
        | ok second => cases second <;> rfl
  | disjunction a b c =>
    simp only [run_both]
    cases (a.run (.ofAnswers answer) x).1 with
    | error e => rfl
    | ok first =>
      cases first with
      | success s => rfl
      | failure f =>
        cases (b.run (.ofAnswers answer) x).1 with
        | error e => rfl
        | ok second => cases second <;> rfl

/-- A law that keeps outcomes keeps them wherever it is used inside a rule. -/
theorem run_of_rearranged {law : Rule → Rule → Prop}
    (kept : ∀ r r', law r r' → ∀ x,
      (r.run (.ofAnswers answer) x).1 = (r'.run (.ofAnswers answer) x).1)
    {r r' : Rule} (same : Rearranged law r r') (x : Value) :
    (r.run (.ofAnswers answer) x).1 = (r'.run (.ofAnswers answer) x).1 := by
  induction same generalizing x with
  | here same => exact kept _ _ same x
  | each name _ ih => simp only [run_each, ih]
  | set name before after single _ ih =>
    simp only [run_set, List.mapM_append, List.mapM_cons, ih]
  | left op right _ ih => simp only [run_both, ih]
  | right op left _ ih => simp only [run_both, ih]
  | refl r => rfl
  | symm _ ih => exact (ih x).symm
  | trans _ _ first second => exact (first x).trans (second x)

end Rule

/-! ## Schemas -/

namespace Schema

variable {rules rules' : List Rule}

theorem evalRules_congr (oracle : Oracle)
    (same : List.Forall₂ (fun r r' => r.eval oracle = r'.eval oracle) rules rules') (x : Value) :
    evalRules oracle x rules = evalRules oracle x rules' := by
  induction same with
  | nil => rfl
  | cons first _ ih => rw [evalRules, evalRules, first, ih]

theorem run_of_regrouped
    (same : List.Forall₂ (Rule.Rearranged Rule.Regrouped) rules rules') (oracle : Oracle)
    (config : Config) (x : Value) :
    run oracle ⟨rules, config⟩ x = run oracle ⟨rules', config⟩ x := by
  have evaluated := evalRules_congr oracle
    (same.imp fun _ _ h => Rule.eval_of_rearranged h oracle) x
  rw [run, run, evaluate, evaluate, evaluated]

theorem run_of_rearranged {answer : Call → Except Fault Bool} {law : Rule → Rule → Prop}
    (kept : ∀ r r', law r r' → ∀ x,
      (r.run (.ofAnswers answer) x).1 = (r'.run (.ofAnswers answer) x).1)
    (same : List.Forall₂ (Rule.Rearranged law) rules rules') (config : Config) (x : Value) :
    (run (.ofAnswers answer) ⟨rules, config⟩ x).1 =
      (run (.ofAnswers answer) ⟨rules', config⟩ x).1 := by
  have outcomes : (rules.mapM fun rule => (rule.run (.ofAnswers answer) x).1) =
      rules'.mapM fun rule => (rule.run (.ofAnswers answer) x).1 := by
    induction same with
    | nil => rfl
    | cons first _ ih =>
      rw [List.mapM_cons, List.mapM_cons, Rule.run_of_rearranged kept first, ih]
  rw [run_ofAnswers, run_ofAnswers, outcomes]

end Schema

/-- **Rearranging is not seen.** Regrouping joined rules changes neither their outcome, with all that
a result holds, nor the questions that are asked, whatever predicates answer. Distributing one
connective over the other changes no outcome as long as answers depend on nothing but the question.
So a schema of which any parts are rearranged comes to the same verdict, from which its errors and
messages are made. -/
theorem rearranging_unseen :
    (∀ (oracle : Oracle) (a b c : Rule) (x : Value),
      (Rule.both .conjunction (.both .conjunction a b) c).run oracle x =
          (Rule.both .conjunction a (.both .conjunction b c)).run oracle x ∧
        (Rule.both .disjunction (.both .disjunction a b) c).run oracle x =
          (Rule.both .disjunction a (.both .disjunction b c)).run oracle x ∧
        (Rule.both .implication (.both .conjunction a b) c).run oracle x =
          (Rule.both .implication a (.both .implication b c)).run oracle x) ∧
    (∀ (answer : Call → Except Fault Bool) (a b c : Rule) (x : Value),
      ((Rule.both .conjunction a (.both .disjunction b c)).run (.ofAnswers answer) x).1 =
          ((Rule.both .disjunction (.both .conjunction a b) (.both .conjunction a c)).run
            (.ofAnswers answer) x).1 ∧
        ((Rule.both .disjunction a (.both .conjunction b c)).run (.ofAnswers answer) x).1 =
          ((Rule.both .conjunction (.both .disjunction a b) (.both .disjunction a c)).run
            (.ofAnswers answer) x).1) ∧
    (∀ rules rules' : List Rule, List.Forall₂ (Rule.Rearranged Rule.Regrouped) rules rules' →
      ∀ (oracle : Oracle) (config : Config) (x : Value),
        Schema.run oracle ⟨rules, config⟩ x = Schema.run oracle ⟨rules', config⟩ x) ∧
    ∀ rules rules' : List Rule,
      List.Forall₂ (Rule.Rearranged fun r r' => r.Regrouped r' ∨ r.Distributed r') rules rules' →
      ∀ (answer : Call → Except Fault Bool) (config : Config) (x : Value),
        (Schema.run (.ofAnswers answer) ⟨rules, config⟩ x).1 =
          (Schema.run (.ofAnswers answer) ⟨rules', config⟩ x).1 := by
  have regrouped {r r' : Rule} (same : r.Regrouped r') (oracle : Oracle) (x : Value) :
      r.run oracle x = r'.run oracle x := by
    rw [Rule.run, Rule.run, Rule.eval_of_regrouped same]
  refine ⟨fun oracle a b c x => ⟨?_, ?_, ?_⟩, fun answer a b c x => ⟨?_, ?_⟩, ?_, ?_⟩
  · exact regrouped (.conjunction a b c) oracle x
  · exact regrouped (.disjunction a b c) oracle x
  · exact regrouped (.antecedent a b c) oracle x
  · exact Rule.run_of_distributed (.conjunction a b c) x
  · exact Rule.run_of_distributed (.disjunction a b c) x
  · exact fun rules rules' same => Schema.run_of_regrouped same
  · intro rules rules' same answer
    refine Schema.run_of_rearranged (fun r r' law x => ?_) same
    rcases law with law | law
    · rw [regrouped law]
    · exact Rule.run_of_distributed law x

/-- Two rules for the items of an order, each with a grouping of its own. -/
theorem rearranging_unseen_brokenOrder :
    let a := Rule.val .null (.ofStandard (.unary .mapping)) []
    let b := Rule.val (.str "name") (.ofStandard (.unary .text)) []
    let c := Rule.val (.str "size") (.ofStandard (.binary .oneOf)) [.tuple [.int 1, .int 2]]
    let grouped := Rule.each (.str "items") (.both .implication (.both .conjunction a b) c)
    let regrouped := Rule.each (.str "items") (.both .implication a (.both .implication b c))
    let joint := Rule.each (.str "items") (.both .conjunction a (.both .disjunction b c))
    let separate := Rule.each (.str "items")
      (.both .disjunction (.both .conjunction a b) (.both .conjunction a c))
    Rule.Rearranged Rule.Regrouped grouped regrouped ∧
      (∀ oracle, Schema.run oracle ⟨[grouped], .default⟩ brokenOrder =
        Schema.run oracle ⟨[regrouped], .default⟩ brokenOrder) ∧
      Rule.Rearranged (fun r r' => r.Regrouped r' ∨ r.Distributed r') joint separate ∧
      ((Schema.run (.ofAnswers standardAnswer) ⟨[joint], .default⟩ brokenOrder).1 =
        (Schema.run (.ofAnswers standardAnswer) ⟨[separate], .default⟩ brokenOrder).1) ∧
      ((Schema.run (.ofAnswers standardAnswer) ⟨[joint], .default⟩ brokenOrder).1.map
        Verdict.isSuccess) = .ok false := by
  intro a b c grouped regrouped joint separate
  have inner : Rule.Rearranged Rule.Regrouped grouped regrouped :=
    .each _ (.here (.antecedent a b c))
  have inner' : Rule.Rearranged (fun r r' => r.Regrouped r' ∨ r.Distributed r') joint separate :=
    .each _ (.here (.inr (.conjunction a b c)))
  obtain ⟨_, _, regrouping, rearranging⟩ := rearranging_unseen
  refine ⟨inner, fun oracle => ?_, inner', ?_, rfl⟩
  · exact regrouping _ _ (.cons inner .nil) oracle .default brokenOrder
  · exact rearranging _ _ (.cons inner' .nil) standardAnswer .default brokenOrder

end Rulebook
