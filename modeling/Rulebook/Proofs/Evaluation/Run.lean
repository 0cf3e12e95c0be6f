import Rulebook.Rule.Evaluation

/-!
Evaluations after some questions. Main statements:
* `after_ask`, `after_orFault`: what the steps of an evaluation come to and add to the record;
* `input_of_eval`: every result of a rule remembers the very input that the rule was applied to.
-/

namespace Rulebook

namespace Evaluation

variable {α β : Type}

/-- What an evaluation comes to when it follows some questions, and all questions asked by then. -/
def after (m : Evaluation α) (before : List Call) : Except Fault α × List Call := m.run.run before

/-- Two evaluations that come to the same after all questions are the same. -/
theorem ext_after {m m' : Evaluation α} (h : ∀ before, after m before = after m' before) :
    m = m' :=
  funext h

theorem after_pure (a : α) (before : List Call) :
    after (pure a : Evaluation α) before = (.ok a, before) := rfl

theorem after_bind_ok {m : Evaluation α} {f : α → Evaluation β} {before asked : List Call} {a : α}
    (came : after m before = (.ok a, asked)) :
    after (m >>= f) before = after (f a) asked := by
  unfold after at came
  simp only [after, ExceptT.run_bind, StateT.run_bind, came]
  rfl

theorem after_bind_error {m : Evaluation α} {f : α → Evaluation β} {before asked : List Call}
    {e : Fault} (came : after m before = (.error e, asked)) :
    after (m >>= f) before = (.error e, asked) := by
  unfold after at came
  simp only [after, ExceptT.run_bind, StateT.run_bind, came]
  rfl

theorem after_map {m : Evaluation α} {f : α → β} {before asked : List Call}
    {outcome : Except Fault α} (came : after m before = (outcome, asked)) :
    after (do return f (← m)) before = (outcome.map f, asked) := by
  cases outcome with
  | error e => exact after_bind_error came
  | ok a => exact after_bind_ok came

theorem after_orFault (x : Except Fault α) (before : List Call) :
    after (orFault x) before = (x, before) := by
  cases x <;> rfl

theorem ask_eq (oracle : Oracle) (c : Call) :
    ask oracle c = (do
      let before ← getThe (List Call)
      set (before ++ [c])
      orFault (oracle before c)) := by
  unfold ask
  congr 1
  funext before
  congr 1
  funext _
  cases oracle before c <;> rfl

/-- A question is recorded whatever the answer is. -/
theorem after_ask (oracle : Oracle) (c : Call) (before : List Call) :
    after (ask oracle c) before = (oracle before c, before ++ [c]) := by
  have recorded : after (ask oracle c) before =
      after (orFault (oracle before c)) (before ++ [c]) := by
    rw [ask_eq]
    rfl
  rw [recorded, after_orFault]

/-- Whatever an evaluation comes to has a property. -/
def Yields (m : Evaluation α) (P : α → Prop) : Prop :=
  ∀ before a, (after m before).1 = .ok a → P a

variable {m : Evaluation α} {f : α → Evaluation β} {Q : α → Prop} {P : β → Prop}

theorem yields_pure {b : β} (h : P b) : Yields (pure b) P := by
  intro before b' came
  cases came
  exact h

theorem yields_bind (first : Yields m Q) (next : ∀ a, Q a → Yields (f a) P) :
    Yields (m >>= f) P := by
  intro before b came
  cases left : after m before with
  | mk outcome asked =>
    cases outcome with
    | error e =>
      rw [after_bind_error left] at came
      cases came
    | ok a =>
      have held : Q a := first before a (by rw [left])
      rw [after_bind_ok left] at came
      exact next a held asked b came

theorem yields_of_last (last : ∀ a, Yields (f a) P) : Yields (m >>= f) P :=
  yields_bind (Q := fun _ => True) (fun _ _ _ => trivial) fun a _ => last a

/-- What an evaluation is followed by matters only for what it can come to. -/
theorem bind_congr_of_yields {g : α → Evaluation β} (first : Yields m Q)
    (same : ∀ a, Q a → f a = g a) : m >>= f = m >>= g := by
  apply ext_after
  intro before
  cases left : after m before with
  | mk outcome asked =>
    cases outcome with
    | error e => rw [after_bind_error left, after_bind_error left]
    | ok a =>
      have held : Q a := first before a (by rw [left])
      rw [after_bind_ok left, after_bind_ok left, same a held]

end Evaluation

/-! ## What results remember -/

open Evaluation

theorem input_gather (x name subject : Value) (kind : FailureKind)
    (children : List (Value × Failure)) : (gather x name subject kind children).input = x := by
  unfold gather
  split <;> rfl

theorem input_of_join {op : Connective} {left : Result} {right : Value → Evaluation Result}
    {x : Value} (remembered : left.input = x) (h : Yields (right x) fun r => r.input = x) :
    Yields (op.join left right) fun r => r.input = x := by
  subst remembered
  cases left with
  | success s =>
    cases op with
    | conjunction => exact h
    | disjunction => exact yields_pure rfl
    | implication => exact h
  | failure f =>
    cases op with
    | conjunction => exact yields_pure rfl
    | disjunction => exact h
    | implication => exact yields_pure rfl

/-- Sequences and maps change the subject, but not what their own result remembers. -/
theorem input_of_eval (oracle : Oracle) (rule : Rule) (x : Value) :
    Yields (rule.eval oracle x) fun r => r.input = x := by
  match rule with
  | .key name p arguments =>
    unfold Rule.eval
    refine yields_of_last fun answer => yields_of_last fun subject => ?_
    cases answer <;> exact yields_pure rfl
  | .val name p arguments =>
    unfold Rule.eval
    refine yields_of_last fun subject => yields_of_last fun answer => ?_
    cases answer <;> exact yields_pure rfl
  | .each name rule =>
    unfold Rule.eval
    refine yields_of_last fun subject => ?_
    split
    · exact yields_of_last fun children => yields_pure (input_gather ..)
    · exact yields_pure rfl
  | .set name rules single =>
    unfold Rule.eval
    refine yields_of_last fun subject => ?_
    split
    · exact yields_of_last fun children => yields_pure (input_gather ..)
    · exact yields_pure rfl
  | .both op left right =>
    unfold Rule.eval
    exact yields_bind (input_of_eval oracle left x) fun r remembered =>
      input_of_join remembered (input_of_eval oracle right x)

end Rulebook
