import Rulebook.Proofs.Evaluation.Run

/-!
What rules mean. `Judges` says, without results that remember anything, which questions a rule asks
about a subject and whether it holds. Main statements:
* `verdict_key` to `verdict_both`: the verdict of each kind of rule from those of its parts;
* `verdict_of_judges`, `judges_total`: evaluation follows the meaning, and there always is one;
* `run_eq_iff_judges`: running a rule gives exactly the outcome and the questions that it means.
-/

namespace Rulebook

/-- The truth table of a connective. -/
def Connective.table : Connective → Bool → Bool → Bool
  | .conjunction, left, right => left && right
  | .disjunction, left, right => left || right
  | .implication, left, right => !left || right

/-- Whether the right side is asked about after a verdict on the left one. -/
def Connective.asksRight : Connective → Bool → Bool
  | .conjunction, left => left
  | .disjunction, left => !left
  | .implication, left => left

/-- Where the right side is not asked about, it would not count. -/
theorem Connective.table_of_not_asksRight {op : Connective} {left : Bool}
    (decided : op.asksRight left = false) (right right' : Bool) :
    op.table left right = op.table left right' := by
  cases op <;> cases left <;> simp_all [asksRight, table]

mutual

/-- A rule asks some questions about a subject after those that were asked before, and comes to an
outcome: it holds or not, or a question or a name ends in a fault. -/
inductive Judges (oracle : Oracle) :
    List Call → Rule → Value → List Call → Except Fault Bool → Prop where
  /-- The name and the whole subject are asked about. Only then is the name looked up, which no value
  that can be a key of a map is refused for. -/
  | key {before : List Call} {name : Value} {p : Predicate} {arguments : List Value} {x : Value} :
      Judges oracle before (.key name p arguments) x [⟨p, arguments ++ [name, x]⟩]
        (do
          let answer ← oracle before ⟨p, arguments ++ [name, x]⟩
          let _ ← fetch x name
          return answer)
  | val {before : List Call} {name : Value} {p : Predicate} {arguments : List Value}
      {x subject : Value} (found : fetch x name = .ok subject) :
      Judges oracle before (.val name p arguments) x [⟨p, arguments ++ [subject]⟩]
        (oracle before ⟨p, arguments ++ [subject]⟩)
  | valFault {before : List Call} {name : Value} {p : Predicate} {arguments : List Value}
      {x : Value} {f : Fault} (missed : fetch x name = .error f) :
      Judges oracle before (.val name p arguments) x [] (.error f)
  /-- The elements are judged in order, each as a subject of its own. -/
  | each {before : List Call} {name : Value} {rule : Rule} {x : Value} {kind : SeqKind}
      {items : List Value} {calls : List Call} {outcome : Except Fault Bool}
      (found : fetch x name = .ok (.seq kind items))
      (all : JudgesAll oracle before (items.map fun y => (rule, y)) calls outcome) :
      Judges oracle before (.each name rule) x calls outcome
  | eachOther {before : List Call} {name : Value} {rule : Rule} {x subject : Value}
      (found : fetch x name = .ok subject) (other : subject.isSeq = false) :
      Judges oracle before (.each name rule) x [] (.ok false)
  | eachFault {before : List Call} {name : Value} {rule : Rule} {x : Value} {f : Fault}
      (missed : fetch x name = .error f) :
      Judges oracle before (.each name rule) x [] (.error f)
  /-- The rules are judged in order, all of the same map. -/
  | set {before : List Call} {name : Value} {rules : List Rule} {single : Bool} {x : Value}
      {entries : List (Value × Value)} {calls : List Call} {outcome : Except Fault Bool}
      (found : fetch x name = .ok (.map entries))
      (all : JudgesAll oracle before (rules.map fun rule => (rule, .map entries)) calls outcome) :
      Judges oracle before (.set name rules single) x calls outcome
  | setOther {before : List Call} {name : Value} {rules : List Rule} {single : Bool}
      {x subject : Value} (found : fetch x name = .ok subject) (other : subject.isMap = false) :
      Judges oracle before (.set name rules single) x [] (.ok false)
  | setFault {before : List Call} {name : Value} {rules : List Rule} {single : Bool} {x : Value}
      {f : Fault} (missed : fetch x name = .error f) :
      Judges oracle before (.set name rules single) x [] (.error f)
  | leftFault {before : List Call} {op : Connective} {left right : Rule} {x : Value}
      {calls : List Call} {f : Fault} (first : Judges oracle before left x calls (.error f)) :
      Judges oracle before (.both op left right) x calls (.error f)
  /-- What the right side would come to does not matter. -/
  | leftDecides {before : List Call} {op : Connective} {left right : Rule} {x : Value}
      {calls : List Call} {a : Bool} (first : Judges oracle before left x calls (.ok a))
      (decided : op.asksRight a = false) (b : Bool) :
      Judges oracle before (.both op left right) x calls (.ok (op.table a b))
  /-- The right side is judged of the same subject as the left one. -/
  | both {before : List Call} {op : Connective} {left right : Rule} {x : Value}
      {calls more : List Call} {a : Bool} {outcome : Except Fault Bool}
      (first : Judges oracle before left x calls (.ok a)) (asked : op.asksRight a = true)
      (second : Judges oracle (before ++ calls) right x more outcome) :
      Judges oracle before (.both op left right) x (calls ++ more) (outcome.map (op.table a))

/-- Rules with a subject each are judged in order. A rule that does not hold stops nothing; a fault
does. -/
inductive JudgesAll (oracle : Oracle) :
    List Call → List (Rule × Value) → List Call → Except Fault Bool → Prop where
  | nil {before : List Call} : JudgesAll oracle before [] [] (.ok true)
  | fault {before : List Call} {rule : Rule} {y : Value} {rest : List (Rule × Value)}
      {calls : List Call} {f : Fault} (first : Judges oracle before rule y calls (.error f)) :
      JudgesAll oracle before ((rule, y) :: rest) calls (.error f)
  | cons {before : List Call} {rule : Rule} {y : Value} {rest : List (Rule × Value)}
      {calls more : List Call} {a : Bool} {outcome : Except Fault Bool}
      (first : Judges oracle before rule y calls (.ok a))
      (others : JudgesAll oracle (before ++ calls) rest more outcome) :
      JudgesAll oracle before ((rule, y) :: rest) (calls ++ more) (outcome.map (a && ·))

end

/-! ## Verdicts -/

open Evaluation

/-- Whether a rule holds, without what its result remembers. -/
def Rule.verdict (oracle : Oracle) (rule : Rule) (x : Value) : Evaluation Bool := do
  return (← rule.eval oracle x).isSuccess

/-- Whether rules hold of a subject each; all of them are evaluated. -/
def verdictOfAll (oracle : Oracle) : List (Rule × Value) → Evaluation Bool
  | [] => return true
  | (rule, y) :: rest => do
    let a ← rule.verdict oracle y
    let b ← verdictOfAll oracle rest
    return a && b

variable {oracle : Oracle}

theorem verdict_key (name : Value) (p : Predicate) (arguments : List Value) (x : Value) :
    (Rule.key name p arguments).verdict oracle x = do
      let answer ← ask oracle ⟨p, arguments ++ [name, x]⟩
      let _ ← orFault (fetch x name)
      return answer := by
  unfold Rule.verdict Rule.eval
  simp only [bind_assoc, List.append_assoc, List.singleton_append]
  congr 1
  funext answer
  cases answer <;> simp [Result.isSuccess]

theorem verdict_val (name : Value) (p : Predicate) (arguments : List Value) (x : Value) :
    (Rule.val name p arguments).verdict oracle x = (do
      let subject ← orFault (fetch x name)
      ask oracle ⟨p, arguments ++ [subject]⟩) := by
  unfold Rule.verdict Rule.eval
  simp only [bind_assoc]
  congr 1
  funext subject
  refine (bind_congr fun answer => ?_).trans (bind_pure _)
  cases answer <;> simp [Result.isSuccess]

theorem isSuccess_gather (x name subject : Value) (kind : FailureKind)
    (children : List (Value × Failure)) :
    (gather x name subject kind children).isSuccess = children.isEmpty := by
  unfold gather
  cases children <;> rfl

/-- The two loops over parts: a part that holds adds no failure, and one that does not adds one. -/
theorem isEmpty_collect (rule : Rule) (y : Value) (label : Failure → Value)
    (others : Evaluation (List (Value × Failure))) :
    (do
      let failures ← (do
        let r ← rule.eval oracle y
        let failures ← others
        match r.failure? with
        | some f => return (label f, f) :: failures
        | none => return failures)
      return failures.isEmpty) =
    (do
      let a ← rule.verdict oracle y
      let b ← (do return (← others).isEmpty)
      return a && b) := by
  simp only [Rule.verdict, bind_assoc, pure_bind]
  congr 1
  funext r
  congr 1
  funext failures
  cases r <;> simp [Result.failure?, Result.isSuccess]

theorem verdict_elements (rule : Rule) (index : Nat) (items : List Value) :
    (do return (← failuresFrom (fun y => rule.eval oracle y) index items).isEmpty) =
      verdictOfAll oracle (items.map fun y => (rule, y)) := by
  induction items generalizing index with
  | nil => rfl
  | cons y rest ih =>
    rw [failuresFrom, List.map_cons, verdictOfAll, ← ih (index + 1)]
    exact isEmpty_collect rule y (fun _ => .int index) _

theorem verdict_fields (rules : List Rule) (x : Value) :
    (do return (← Rule.evalFields oracle rules x).isEmpty) =
      verdictOfAll oracle (rules.map fun rule => (rule, x)) := by
  induction rules with
  | nil => rfl
  | cons rule rest ih =>
    rw [Rule.evalFields, List.map_cons, verdictOfAll, ← ih]
    exact isEmpty_collect rule x (·.name) _

theorem verdict_each (name : Value) (rule : Rule) (x : Value) :
    (Rule.each name rule).verdict oracle x = do
      match ← orFault (fetch x name) with
      | .seq _ items => verdictOfAll oracle (items.map fun y => (rule, y))
      | _ => return false := by
  unfold Rule.verdict Rule.eval
  simp only [bind_assoc]
  congr 1
  funext subject
  cases subject with
  | seq kind items => simp [isSuccess_gather, ← verdict_elements rule 0]
  | _ => simp [wrongShape, Result.isSuccess]

theorem verdict_set (name : Value) (rules : List Rule) (single : Bool) (x : Value) :
    (Rule.set name rules single).verdict oracle x = do
      match ← orFault (fetch x name) with
      | .map entries => verdictOfAll oracle (rules.map fun rule => (rule, .map entries))
      | _ => return false := by
  unfold Rule.verdict Rule.eval
  simp only [bind_assoc]
  congr 1
  funext subject
  cases subject with
  | map entries => simp [isSuccess_gather, ← verdict_fields]
  | _ => simp [wrongShape, Result.isSuccess]

/-- The right side is applied to what the left result remembers, which is the subject of both. -/
theorem verdict_join {op : Connective} {left : Result} {right : Rule} {x : Value}
    (remembered : left.input = x) :
    (do return (← op.join left fun y => right.eval oracle y).isSuccess) =
      if op.asksRight left.isSuccess then
        do return op.table left.isSuccess (← right.verdict oracle x)
      else return op.table left.isSuccess false := by
  subst remembered
  cases left <;> cases op <;>
    simp [Connective.join, Connective.asksRight, Connective.table, Rule.verdict, Result.isSuccess,
      Result.input]

theorem verdict_both (op : Connective) (left right : Rule) (x : Value) :
    (Rule.both op left right).verdict oracle x = do
      let a ← left.verdict oracle x
      if op.asksRight a then return op.table a (← right.verdict oracle x)
      else return op.table a false := by
  have joined : ∀ r : Result, r.input = x →
      (do return (← op.join r fun y => right.eval oracle y).isSuccess) = _ :=
    fun r remembered => verdict_join remembered
  rw [Rule.verdict, Rule.eval, Rule.verdict]
  simp only [bind_assoc, pure_bind]
  exact bind_congr_of_yields (input_of_eval oracle left x) joined

/-! ## Judgements -/

mutual

theorem verdict_of_judges {before : List Call} {rule : Rule} {x : Value} {calls : List Call}
    {outcome : Except Fault Bool} (h : Judges oracle before rule x calls outcome) :
    after (rule.verdict oracle x) before = (outcome, before ++ calls) := by
  match h with
  | @Judges.key _ _ name p arguments _ =>
    have asked := after_ask oracle ⟨p, arguments ++ [name, x]⟩ before
    have looked := after_orFault (fetch x name) (before ++ [⟨p, arguments ++ [name, x]⟩])
    rw [verdict_key]
    cases answered : oracle before ⟨p, arguments ++ [name, x]⟩ with
    | error f =>
      rw [answered] at asked
      rw [after_bind_error asked]
      rfl
    | ok answer =>
      rw [answered] at asked
      rw [after_bind_ok asked]
      cases found : fetch x name with
      | error f =>
        rw [found] at looked
        rw [after_bind_error looked]
        rfl
      | ok subject =>
        rw [found] at looked
        rw [after_bind_ok looked]
        rfl
  | .val found =>
    rw [verdict_val, found, after_bind_ok (after_orFault ..), after_ask]
  | .valFault missed =>
    rw [verdict_val, missed, after_bind_error (after_orFault ..), List.append_nil]
  | .each found all =>
    have judged := verdictOfAll_of_judgesAll all
    rw [verdict_each, found, after_bind_ok (after_orFault ..)]
    exact judged
  | .eachOther found other =>
    rw [verdict_each, found, after_bind_ok (after_orFault ..), List.append_nil]
    split
    · cases other
    · rfl
  | .eachFault missed =>
    rw [verdict_each, missed, after_bind_error (after_orFault ..), List.append_nil]
  | .set found all =>
    have judged := verdictOfAll_of_judgesAll all
    rw [verdict_set, found, after_bind_ok (after_orFault ..)]
    exact judged
  | .setOther found other =>
    rw [verdict_set, found, after_bind_ok (after_orFault ..), List.append_nil]
    split
    · cases other
    · rfl
  | .setFault missed =>
    rw [verdict_set, missed, after_bind_error (after_orFault ..), List.append_nil]
  | .leftFault first =>
    rw [verdict_both, after_bind_error (verdict_of_judges first)]
  | .leftDecides first decided b =>
    rw [verdict_both, after_bind_ok (verdict_of_judges first), decided]
    simp only [Bool.false_eq_true, if_false]
    rw [after_pure, Connective.table_of_not_asksRight decided false b]
  | .both first asked second =>
    rw [verdict_both, after_bind_ok (verdict_of_judges first), asked]
    simp only [if_true]
    rw [after_map (verdict_of_judges second), List.append_assoc]

theorem verdictOfAll_of_judgesAll {before : List Call} {tasks : List (Rule × Value)}
    {calls : List Call} {outcome : Except Fault Bool}
    (h : JudgesAll oracle before tasks calls outcome) :
    after (verdictOfAll oracle tasks) before = (outcome, before ++ calls) := by
  match h with
  | .nil => simp [verdictOfAll, after_pure]
  | .fault first =>
    rw [verdictOfAll, after_bind_error (verdict_of_judges first)]
  | .cons first others =>
    rw [verdictOfAll, after_bind_ok (verdict_of_judges first),
      after_map (verdictOfAll_of_judgesAll others), List.append_assoc]

end

/-- A rule that means something of every subject means something of every sequence. -/
theorem judgesAll_elements {rule : Rule}
    (total : ∀ before x, ∃ calls outcome, Judges oracle before rule x calls outcome)
    (before : List Call) (items : List Value) :
    ∃ calls outcome,
      JudgesAll oracle before (items.map fun y => (rule, y)) calls outcome := by
  induction items generalizing before with
  | nil => exact ⟨_, _, .nil⟩
  | cons y rest ih =>
    obtain ⟨calls, outcome, first⟩ := total before y
    cases outcome with
    | error f => exact ⟨_, _, .fault first⟩
    | ok a =>
      obtain ⟨more, outcome, others⟩ := ih (before ++ calls)
      exact ⟨_, _, .cons first others⟩

mutual

theorem judges_total (rule : Rule) (before : List Call) (x : Value) :
    ∃ calls outcome, Judges oracle before rule x calls outcome := by
  match rule with
  | .key name p arguments => exact ⟨_, _, .key⟩
  | .val name p arguments =>
    cases found : fetch x name with
    | error f => exact ⟨_, _, .valFault found⟩
    | ok subject => exact ⟨_, _, .val found⟩
  | .each name rule =>
    cases found : fetch x name with
    | error f => exact ⟨_, _, .eachFault found⟩
    | ok subject =>
      cases subject with
      | seq kind items =>
        obtain ⟨calls, outcome, all⟩ := judgesAll_elements (judges_total rule) before items
        exact ⟨_, _, .each found all⟩
      | _ => exact ⟨_, _, .eachOther found rfl⟩
  | .set name rules single =>
    cases found : fetch x name with
    | error f => exact ⟨_, _, .setFault found⟩
    | ok subject =>
      cases subject with
      | map entries =>
        obtain ⟨calls, outcome, all⟩ := judgesAll_fields rules before (.map entries)
        exact ⟨_, _, .set found all⟩
      | _ => exact ⟨_, _, .setOther found rfl⟩
  | .both op left right =>
    obtain ⟨calls, outcome, first⟩ := judges_total left before x
    cases outcome with
    | error f => exact ⟨_, _, .leftFault first⟩
    | ok a =>
      cases asked : op.asksRight a with
      | false => exact ⟨_, _, .leftDecides first asked false⟩
      | true =>
        obtain ⟨more, outcome, second⟩ := judges_total right (before ++ calls) x
        exact ⟨_, _, .both first asked second⟩

theorem judgesAll_fields (rules : List Rule) (before : List Call) (x : Value) :
    ∃ calls outcome,
      JudgesAll oracle before (rules.map fun rule => (rule, x)) calls outcome := by
  match rules with
  | [] => exact ⟨_, _, .nil⟩
  | rule :: rest =>
    obtain ⟨calls, outcome, first⟩ := judges_total rule before x
    cases outcome with
    | error f => exact ⟨_, _, .fault first⟩
    | ok a =>
      obtain ⟨more, outcome, others⟩ := judgesAll_fields rest (before ++ calls) x
      exact ⟨_, _, .cons first others⟩

end

theorem run_verdict (rule : Rule) (x : Value) :
    after (rule.verdict oracle x) [] =
      ((rule.run oracle x).1.map Result.isSuccess, (rule.run oracle x).2) :=
  after_map rfl

/-- **Evaluation follows the meaning of rules.** Whatever predicates answer, a run of a rule comes
to the outcome that the rule means, a verdict or a fault, and asks the questions that the rule means
in their order, and nothing else. -/
theorem run_eq_iff_judges (oracle : Oracle) (rule : Rule) (x : Value) (calls : List Call)
    (outcome : Except Fault Bool) :
    ((rule.run oracle x).1.map Result.isSuccess = outcome ∧ (rule.run oracle x).2 = calls) ↔
      Judges oracle [] rule x calls outcome := by
  constructor
  · rintro ⟨rfl, rfl⟩
    obtain ⟨calls, outcome, judged⟩ : ∃ calls outcome, Judges oracle [] rule x calls outcome :=
      judges_total rule [] x
    have came := verdict_of_judges judged
    rw [run_verdict, List.nil_append] at came
    obtain ⟨rfl, rfl⟩ := Prod.mk.inj came
    exact judged
  · intro judged
    have came := verdict_of_judges judged
    rw [run_verdict, List.nil_append] at came
    exact Prod.mk.inj came

end Rulebook
