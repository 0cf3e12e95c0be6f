import Mathlib.Data.List.Forall2
import Rulebook.Proofs.Evaluation.Run

/-!
What evaluations can come to, read backwards from the result. Main statements:
* `reaches_key` to `reaches_both`: for each kind of rule, what a result says about its parts;
* `remembers_of_reaches`: every result tells the input and the value at its name;
* `reaches_ofAnswers_iff`: where answers depend on nothing but the question, a rule comes to one
  result about a subject, whatever was asked before.
-/

namespace Rulebook

namespace Evaluation

variable {α β : Type} {m : Evaluation α} {f : α → Evaluation β}

/-- An evaluation comes to something after some questions. -/
def Reaches (m : Evaluation α) (a : α) : Prop := ∃ before, (after m before).1 = .ok a

theorem reaches_pure_iff {a b : α} : Reaches (pure a) b ↔ b = a := by
  constructor
  · rintro ⟨_, came⟩
    exact (Except.ok.inj came).symm
  · rintro rfl
    exact ⟨[], rfl⟩

theorem reaches_bind {b : β} (h : Reaches (m >>= f) b) : ∃ a, Reaches m a ∧ Reaches (f a) b := by
  obtain ⟨before, came⟩ := h
  cases first : after m before with
  | mk outcome asked =>
    cases outcome with
    | error e =>
      rw [after_bind_error first] at came
      cases came
    | ok a =>
      rw [after_bind_ok first] at came
      exact ⟨a, ⟨before, by rw [first]⟩, asked, came⟩

theorem reaches_orFault_iff {x : Except Fault α} {a : α} : Reaches (orFault x) a ↔ x = .ok a := by
  simp [Reaches, after_orFault]

theorem reaches_ask_iff {oracle : Oracle} {c : Call} {answer : Bool} :
    Reaches (ask oracle c) answer ↔ ∃ before, oracle before c = .ok answer := by
  simp [Reaches, after_ask]

end Evaluation

open Evaluation

/-- The failures among some results, each with its position, counted from an index. -/
def failing (results : List Result) (index : Nat) : List (Nat × Failure) :=
  (results.zipIdx index).filterMap fun (r, i) => r.failure?.map (i, ·)

theorem Result.failure?_eq_some_iff {r : Result} {f : Failure} :
    r.failure? = some f ↔ r = .failure f := by
  cases r <;> simp [Result.failure?]

theorem failing_cons (r : Result) (rest : List Result) (index : Nat) :
    failing (r :: rest) index =
      match r.failure? with
      | some f => (index, f) :: failing rest (index + 1)
      | none => failing rest (index + 1) := by
  unfold failing
  rw [List.zipIdx_cons, List.filterMap_cons]
  cases r <;> rfl

theorem mem_failing_iff {results : List Result} {i : Nat} {f : Failure} :
    (i, f) ∈ failing results 0 ↔ results[i]? = some (.failure f) := by
  simp only [failing, List.mem_filterMap, Option.map_eq_some_iff, Prod.mk.injEq]
  constructor
  · rintro ⟨⟨r, j⟩, member, g, failed, rfl, rfl⟩
    rw [← Result.failure?_eq_some_iff.mp failed]
    exact List.mem_zipIdx_iff_getElem?.mp member
  · intro found
    exact ⟨(.failure f, i), List.mem_zipIdx_iff_getElem?.mpr found, f, rfl, rfl, rfl⟩

/-- Positions rise, so none occurs twice. -/
theorem pairwise_failing (results : List Result) (index : Nat) :
    (failing results index).Pairwise fun a b => a.1 < b.1 := by
  induction results generalizing index with
  | nil => exact .nil
  | cons r rest ih =>
    rw [failing_cons]
    cases r with
    | success s => exact ih (index + 1)
    | failure f =>
      refine .cons ?_ (ih (index + 1))
      intro later member
      simp only [failing, List.mem_filterMap, Option.map_eq_some_iff] at member
      obtain ⟨⟨_, i⟩, inside, _, _, rfl⟩ := member
      have bound := List.le_snd_of_mem_zipIdx inside
      exact bound

/-! ## Rules -/

variable {oracle : Oracle} {name x : Value} {r : Result}

theorem reaches_key {p : Predicate} {arguments : List Value}
    (h : Reaches ((Rule.key name p arguments).eval oracle x) r) :
    ∃ before subject answer, oracle before ⟨p, arguments ++ [name, x]⟩ = .ok answer ∧
      fetch x name = .ok subject ∧
      r = if answer then .success ⟨x, name, subject⟩ else
        .failure
          { input := x, name, predicate := some p.id, arguments := p.bind (arguments ++ [name]),
            value := subject, kind := .key } := by
  unfold Rule.eval at h
  obtain ⟨answer, asked, h⟩ := reaches_bind h
  obtain ⟨subject, found, h⟩ := reaches_bind h
  obtain ⟨before, answered⟩ := reaches_ask_iff.mp asked
  rw [List.append_assoc] at answered
  refine ⟨before, subject, answer, answered, reaches_orFault_iff.mp found, ?_⟩
  cases answer <;> exact reaches_pure_iff.mp h

theorem reaches_val {p : Predicate} {arguments : List Value}
    (h : Reaches ((Rule.val name p arguments).eval oracle x) r) :
    ∃ before subject answer, fetch x name = .ok subject ∧
      oracle before ⟨p, arguments ++ [subject]⟩ = .ok answer ∧
      r = if answer then .success ⟨x, name, subject⟩ else
        .failure
          { input := x, name, predicate := some p.id, arguments := p.bind arguments,
            value := subject } := by
  unfold Rule.eval at h
  obtain ⟨subject, found, h⟩ := reaches_bind h
  obtain ⟨answer, asked, h⟩ := reaches_bind h
  obtain ⟨before, answered⟩ := reaches_ask_iff.mp asked
  refine ⟨before, subject, answer, reaches_orFault_iff.mp found, answered, ?_⟩
  cases answer <;> exact reaches_pure_iff.mp h

theorem reaches_failuresFrom {apply : Value → Evaluation Result} {index : Nat} {items : List Value}
    {failures : List (Value × Failure)} (h : Reaches (failuresFrom apply index items) failures) :
    ∃ results, List.Forall₂ (fun y r => Reaches (apply y) r) items results ∧
      failures = (failing results index).map fun (i, f) => (.int i, f) := by
  induction items generalizing index failures with
  | nil => exact ⟨[], .nil, reaches_pure_iff.mp h⟩
  | cons y rest ih =>
    obtain ⟨r, first, h⟩ := reaches_bind h
    obtain ⟨others, later, h⟩ := reaches_bind h
    obtain ⟨results, all, rfl⟩ := ih later
    refine ⟨r :: results, .cons first all, ?_⟩
    rw [failing_cons]
    cases r <;> exact reaches_pure_iff.mp h

theorem reaches_evalFields {rules : List Rule} {failures : List (Value × Failure)}
    (h : Reaches (Rule.evalFields oracle rules x) failures) :
    ∃ results, List.Forall₂ (fun rule r => Reaches (rule.eval oracle x) r) rules results ∧
      failures = (results.filterMap Result.failure?).map fun f => (f.name, f) := by
  induction rules generalizing failures with
  | nil => exact ⟨[], .nil, reaches_pure_iff.mp h⟩
  | cons rule rest ih =>
    obtain ⟨r, first, h⟩ := reaches_bind h
    obtain ⟨others, later, h⟩ := reaches_bind h
    obtain ⟨results, all, rfl⟩ := ih later
    refine ⟨r :: results, .cons first all, ?_⟩
    cases r <;> exact reaches_pure_iff.mp h

theorem reaches_each {rule : Rule} (h : Reaches ((Rule.each name rule).eval oracle x) r) :
    (∃ kind items results, fetch x name = .ok (.seq kind items) ∧
      List.Forall₂ (fun y r => Reaches (rule.eval oracle y) r) items results ∧
      r = gather x name (.seq kind items) .each
        ((failing results 0).map fun (i, f) => (.int i, f))) ∨
    ∃ subject, fetch x name = .ok subject ∧ subject.isSeq = false ∧
      r = wrongShape x name UnaryTest.sequence.id subject := by
  unfold Rule.eval at h
  obtain ⟨subject, found, h⟩ := reaches_bind h
  have found := reaches_orFault_iff.mp found
  cases subject with
  | seq kind items =>
    obtain ⟨failures, elements, h⟩ := reaches_bind h
    obtain ⟨results, all, rfl⟩ := reaches_failuresFrom elements
    exact .inl ⟨kind, items, results, found, all, reaches_pure_iff.mp h⟩
  | _ => exact .inr ⟨_, found, rfl, reaches_pure_iff.mp h⟩

theorem reaches_set {rules : List Rule} {single : Bool}
    (h : Reaches ((Rule.set name rules single).eval oracle x) r) :
    (∃ entries results, fetch x name = .ok (.map entries) ∧
      List.Forall₂ (fun rule r => Reaches (rule.eval oracle (.map entries)) r) rules results ∧
      r = gather x name (.map entries) .set
        ((results.filterMap Result.failure?).map fun f => (f.name, f))) ∨
    ∃ subject, fetch x name = .ok subject ∧ subject.isMap = false ∧
      r = wrongShape x name UnaryTest.mapping.id subject := by
  unfold Rule.eval at h
  obtain ⟨subject, found, h⟩ := reaches_bind h
  have found := reaches_orFault_iff.mp found
  cases subject with
  | map entries =>
    obtain ⟨failures, fields, h⟩ := reaches_bind h
    obtain ⟨results, all, rfl⟩ := reaches_evalFields fields
    exact .inl ⟨entries, results, found, all, reaches_pure_iff.mp h⟩
  | _ => exact .inr ⟨_, found, rfl, reaches_pure_iff.mp h⟩

/-- The result of a connective is that of its left side where this decides, the success of an
implication whose left side failed, or the result of its right side about the same subject. -/
theorem reaches_both {op : Connective} {left right : Rule}
    (h : Reaches ((Rule.both op left right).eval oracle x) r) :
    (Reaches (left.eval oracle x) r ∧ op = if r.isSuccess then .disjunction else .conjunction) ∨
    (∃ f, Reaches (left.eval oracle x) (.failure f) ∧ r = .success ⟨f.input, f.name, f.value⟩) ∨
    Reaches (right.eval oracle x) r := by
  unfold Rule.eval at h
  obtain ⟨first, came, joined⟩ := reaches_bind h
  have remembered : first.input = x := by
    obtain ⟨before, came⟩ := came
    exact input_of_eval oracle left x before first came
  subst remembered
  cases first with
  | success s =>
    cases op with
    | conjunction => exact .inr (.inr joined)
    | disjunction => cases reaches_pure_iff.mp joined; exact .inl ⟨came, rfl⟩
    | implication => exact .inr (.inr joined)
  | failure f =>
    cases op with
    | conjunction => cases reaches_pure_iff.mp joined; exact .inl ⟨came, rfl⟩
    | disjunction => exact .inr (.inr joined)
    | implication => exact .inr (.inl ⟨f, came, reaches_pure_iff.mp joined⟩)

/-! ## What results tell -/

/-- A result tells the input that the rule was applied to and the value at the name there. -/
def Result.Remembers (x : Value) (r : Result) : Prop := r.input = x ∧ fetch x r.name = .ok r.value

theorem remembers_gather {subject : Value} {kind : FailureKind}
    {children : List (Value × Failure)} (found : fetch x name = .ok subject) :
    (gather x name subject kind children).Remembers x := by
  unfold gather
  split <;> exact ⟨rfl, found⟩

theorem remembers_of_reaches {rule : Rule} {x : Value} {r : Result}
    (h : Reaches (rule.eval oracle x) r) : r.Remembers x := by
  match rule with
  | .key name p arguments =>
    obtain ⟨_, _, answer, _, found, rfl⟩ := reaches_key h
    cases answer <;> exact ⟨rfl, found⟩
  | .val name p arguments =>
    obtain ⟨_, _, answer, found, _, rfl⟩ := reaches_val h
    cases answer <;> exact ⟨rfl, found⟩
  | .each name rule =>
    rcases reaches_each h with ⟨_, _, _, found, _, rfl⟩ | ⟨_, found, _, rfl⟩
    · exact remembers_gather found
    · exact ⟨rfl, found⟩
  | .set name rules single =>
    rcases reaches_set h with ⟨_, _, found, _, rfl⟩ | ⟨_, found, _, rfl⟩
    · exact remembers_gather found
    · exact ⟨rfl, found⟩
  | .both op left right =>
    rcases reaches_both h with ⟨came, _⟩ | ⟨f, came, rfl⟩ | came
    · exact remembers_of_reaches came
    · have told : (Result.failure f).Remembers x := remembers_of_reaches came
      exact told
    · exact remembers_of_reaches came

/-! ## Answers that depend on nothing but the question -/

namespace Evaluation

variable {α β : Type} {m : Evaluation α} {f : α → Evaluation β}

/-- What an evaluation comes to is the same whatever was asked before. -/
def Steady (m : Evaluation α) : Prop :=
  ∀ before before', (after m before).1 = (after m before').1

theorem Steady.reaches_iff (steady : Steady m) {a : α} : Reaches m a ↔ (after m []).1 = .ok a := by
  constructor
  · rintro ⟨before, came⟩
    rw [steady [] before, came]
  · intro came
    exact ⟨[], came⟩

theorem steady_pure (a : α) : Steady (pure a) := fun _ _ => rfl

theorem steady_orFault (x : Except Fault α) : Steady (orFault x) := by
  intro before before'
  rw [after_orFault, after_orFault]

theorem steady_ask (answer : Call → Except Fault Bool) (c : Call) :
    Steady (ask (.ofAnswers answer) c) := by
  intro before before'
  rw [after_ask, after_ask]
  rfl

theorem Steady.bind (steady : Steady m) (next : ∀ a, Steady (f a)) : Steady (m >>= f) := by
  intro before before'
  have same := steady before before'
  cases first : after m before with
  | mk outcome asked =>
    cases second : after m before' with
    | mk outcome' asked' =>
      rw [first, second] at same
      cases same
      cases outcome with
      | error e => rw [after_bind_error first, after_bind_error second]
      | ok a =>
        rw [after_bind_ok first, after_bind_ok second]
        exact next a asked asked'

end Evaluation

theorem steady_failuresFrom {apply : Value → Evaluation Result} (steady : ∀ y, Steady (apply y))
    (index : Nat) (items : List Value) : Steady (failuresFrom apply index items) := by
  induction items generalizing index with
  | nil => exact steady_pure _
  | cons y rest ih =>
    refine (steady y).bind fun r => (ih (index + 1)).bind fun others => ?_
    cases r <;> exact steady_pure _

theorem steady_join {op : Connective} {left : Result} {right : Value → Evaluation Result}
    (steady : ∀ y, Steady (right y)) : Steady (op.join left right) := by
  cases op <;> cases left <;> first | exact steady_pure _ | exact steady _

mutual

theorem steady_eval (answer : Call → Except Fault Bool) (rule : Rule) (x : Value) :
    Steady (rule.eval (.ofAnswers answer) x) := by
  match rule with
  | .key name p arguments =>
    unfold Rule.eval
    refine (steady_ask answer _).bind fun held => (steady_orFault _).bind fun subject => ?_
    cases held <;> exact steady_pure _
  | .val name p arguments =>
    unfold Rule.eval
    refine (steady_orFault _).bind fun subject => (steady_ask answer _).bind fun held => ?_
    cases held <;> exact steady_pure _
  | .each name rule =>
    unfold Rule.eval
    refine (steady_orFault _).bind fun subject => ?_
    have elements := steady_failuresFrom (steady_eval answer rule) 0
    split
    · exact (elements _).bind fun _ => steady_pure _
    · exact steady_pure _
  | .set name rules single =>
    unfold Rule.eval
    refine (steady_orFault _).bind fun subject => ?_
    split
    · exact (steady_evalFields answer rules _).bind fun _ => steady_pure _
    · exact steady_pure _
  | .both op left right =>
    unfold Rule.eval
    exact (steady_eval answer left x).bind fun _ => steady_join (steady_eval answer right)

theorem steady_evalFields (answer : Call → Except Fault Bool) (rules : List Rule) (x : Value) :
    Steady (Rule.evalFields (.ofAnswers answer) rules x) := by
  match rules with
  | [] => exact steady_pure _
  | rule :: rest =>
    refine (steady_eval answer rule x).bind fun r => (steady_evalFields answer rest x).bind
      fun others => ?_
    cases r <;> exact steady_pure _

end

theorem reaches_ofAnswers_iff {answer : Call → Except Fault Bool} {rule : Rule} {x : Value}
    {r : Result} :
    Reaches (rule.eval (.ofAnswers answer) x) r ↔ (rule.run (.ofAnswers answer) x).1 = .ok r :=
  (steady_eval answer rule x).reaches_iff

end Rulebook
