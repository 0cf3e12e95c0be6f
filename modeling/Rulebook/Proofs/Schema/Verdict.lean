import Rulebook.Schema.Basic
import Rulebook.Proofs.Evaluation.Equations
import Rulebook.Proofs.Logged
import Rulebook.Proofs.Report.Account

/-!
What schemas are made of and what their verdicts hold. Main statements:
* `wellFormed_of_ofNodes`: the rules of a compiled schema are well formed;
* `results_of_run`: a verdict holds one result of every rule, and the report of these;
* `run_ofAnswers`: where answers depend on nothing but the question, verdicts are made of the outcomes
  of the rules.
-/

namespace Rulebook

open Evaluation

theorem Compiler.allWellFormed_of_compileElements {c : Compiler} (lawful : c.Lawful)
    {nodes : Value} {rules : List Rule} (compiled : c.compileElements nodes = .ok rules) :
    Rule.AllWellFormed c rules := by
  unfold compileElements at compiled
  split at compiled
  · exact allWellFormed_of_derivesAll lawful (derivesAll_of_compileAll compiled)
  · split at compiled
    · exact allWellFormed_of_derivesAll lawful (derivesAll_of_compileAll compiled)
    · cases compiled

namespace Schema

theorem compileElements_of_ofNodes {nodes : Value} {config : Config} {schema : Schema}
    (made : (ofNodes nodes config).ComesTo (.ok schema)) :
    schema.config = config ∧
      (Compiler.ofRegistry config.predicates).compileElements nodes = .ok schema.rules := by
  obtain ⟨rules, compiled, made⟩ := Logged.comesTo_bind_ok made
  cases Logged.comesTo_pure_iff.mp made
  obtain ⟨rules', compiled, recorded⟩ := Logged.comesTo_bind_ok compiled
  obtain ⟨_, _, same⟩ := Logged.comesTo_bind_ok recorded
  cases Logged.comesTo_pure_iff.mp same
  exact ⟨rfl, (Logged.comesTo_ofExcept_iff.mp compiled).symm⟩

theorem wellFormed_of_ofNodes {nodes : Value} {config : Config} {schema : Schema}
    (made : (ofNodes nodes config).ComesTo (.ok schema)) :
    schema.config = config ∧
      Rule.AllWellFormed (.ofRegistry config.predicates) schema.rules := by
  obtain ⟨same, compiled⟩ := compileElements_of_ofNodes made
  exact ⟨same, Compiler.allWellFormed_of_compileElements (Compiler.ofRegistry_lawful _) compiled⟩

/-- One rule after another comes to its result. -/
theorem reaches_evalRules {oracle : Oracle} {x : Value} {rules : List Rule} {results : List Result}
    (h : Reaches (evalRules oracle x rules) results) :
    List.Forall₂ (fun rule res => Reaches (rule.eval oracle x) res) rules results := by
  induction rules generalizing results with
  | nil =>
    cases reaches_pure_iff.mp h
    exact .nil
  | cons rule rest ih =>
    obtain ⟨res, first, h⟩ := reaches_bind h
    obtain ⟨others, later, h⟩ := reaches_bind h
    cases reaches_pure_iff.mp h
    exact .cons first (ih later)

theorem results_of_run {oracle : Oracle} {s : Schema} {x : Value} {v : Verdict}
    (came : (s.run oracle x).1 = .ok v) :
    v.input = x ∧ v.config = s.config ∧ Document.ofResults v.results = .ok v.errors ∧
      List.Forall₂ (fun rule res => Reaches (rule.eval oracle x) res) s.rules v.results := by
  have reached : Reaches (s.evaluate oracle x) v := ⟨[], came⟩
  obtain ⟨results, evaluated, h⟩ := reaches_bind reached
  obtain ⟨errors, reported, h⟩ := reaches_bind h
  cases reaches_pure_iff.mp h
  exact ⟨rfl, rfl, (reaches_orFault_iff.mp reported), reaches_evalRules evaluated⟩

/-- What failed in a verdict are failures of well-formed rules about the whole input. -/
theorem fails_of_mem_failures {oracle : Oracle} {s : Schema} {x : Value} {v : Verdict}
    {c : Compiler} (formed : Rule.AllWellFormed c s.rules) (came : (s.run oracle x).1 = .ok v)
    {f : Failure} (member : f ∈ failures v.results) :
    ∃ rule : Rule, rule.WellFormed c ∧ Fails oracle rule x f := by
  obtain ⟨_, _, _, all⟩ := results_of_run came
  obtain ⟨res, inside, isFailure⟩ := List.mem_filterMap.mp member
  cases Result.failure?_eq_some_iff.mp isFailure
  obtain ⟨i, found⟩ := List.getElem?_of_mem inside
  obtain ⟨rule, nested, reached⟩ := exists_related all.flip found
  exact ⟨rule, Rule.wellFormed_of_getElem? formed nested, fails_of_reaches reached⟩

theorem shaped_of_run {oracle : Oracle} {s : Schema} {x : Value} {v : Verdict} {c : Compiler}
    (formed : Rule.AllWellFormed c s.rules) (came : (s.run oracle x).1 = .ok v) :
    ∀ f ∈ failures v.results, f.Shaped := by
  intro f member
  obtain ⟨rule, formed, fails⟩ := fails_of_mem_failures formed came member
  exact shaped_of_fails fails formed

theorem errors_of_run {oracle : Oracle} {s : Schema} {x : Value} {v : Verdict} {c : Compiler}
    (formed : Rule.AllWellFormed c s.rules) (came : (s.run oracle x).1 = .ok v) :
    v.errors = Fields.grouped (Document.parts (failures v.results)) := by
  obtain ⟨_, _, reported, _⟩ := results_of_run came
  rw [Document.ofResults_of_shaped (shaped_of_run formed came)] at reported
  exact (Except.ok.inj reported).symm

/-! ## Answers that depend on nothing but the question -/

theorem outcome_evalRules {answer : Call → Except Fault Bool} (x : Value) (rules : List Rule) :
    outcome (evalRules (.ofAnswers answer) x rules) =
        (rules.mapM fun rule => (rule.run (.ofAnswers answer) x).1) ∧
      Steady (evalRules (.ofAnswers answer) x rules) := by
  induction rules with
  | nil => exact ⟨rfl, steady_pure _⟩
  | cons rule rest ih =>
    obtain ⟨later, steady⟩ := ih
    have others (r : Result) :
        Steady (do return r :: (← evalRules (.ofAnswers answer) x rest)) :=
      steady.bind fun _ => steady_pure _
    constructor
    · rw [evalRules, outcome_bind others, List.mapM_cons]
      refine bind_congr fun r => ?_
      rw [outcome_map, later]
    · exact (steady_eval answer rule x).bind others

theorem run_ofAnswers {answer : Call → Except Fault Bool} (s : Schema) (x : Value) :
    (s.run (.ofAnswers answer) x).1 = (do
      let results ← s.rules.mapM fun rule => (rule.run (.ofAnswers answer) x).1
      let errors ← Document.ofResults results
      return ⟨x, results, errors, s.config⟩) := by
  change outcome (s.evaluate (.ofAnswers answer) x) = _
  rw [evaluate, outcome_bind, (outcome_evalRules x s.rules).1]
  · refine bind_congr fun results => ?_
    rw [outcome_map, outcome_orFault]
  · exact fun results => (steady_orFault _).bind fun errors => steady_pure _

end Schema

end Rulebook
