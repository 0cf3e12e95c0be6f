import Rulebook.Proofs.Schema.Verdict

/-!
What a rule can see of its input. A rule that is about named fields only is blind for all others.
Main statements:
* `run_of_agreeOn`: on two maps that agree on its fields, a rule comes to results that differ in
  nothing but the remembered input;
* `other_fields_unseen`: so the verdict, the errors and the messages of a schema depend on the
  fields that its rules name and on nothing else.
-/

namespace Rulebook

/-- The result of the same evaluation about another input. -/
def Result.withInput (y : Value) : Result → Result
  | .success s => .success { s with input := y }
  | .failure f => .failure { f with input := y }

namespace Rule

/-- The names that a rule has for its own input; what it asks about their values is not among
them. -/
def fields : Rule → List Value
  | .key name _ _ | .val name _ _ | .each name _ | .set name _ _ => [name]
  | .both _ left right => left.fields ++ right.fields

/-- Whether a rule looks at nothing of its input but fields: it names one everywhere, and all that
it asks about the whole input is whether it has a key. -/
def readsFields : Rule → Bool
  | .key name p _ => !name.isNull && p = .ofStandard (.binary .hasKey)
  | .val name _ _ | .each name _ | .set name _ _ => !name.isNull
  | .both _ left right => left.readsFields && right.readsFields

end Rule

/-- Two maps have the same of some names: the same value, or none. -/
def AgreeOn (names : List Value) (xs ys : List (Value × Value)) : Prop :=
  ∀ name ∈ names, Value.lookup name xs = Value.lookup name ys

/-- The test for keys answers as usual. -/
def TellsKeys (answer : Call → Except Fault Bool) : Prop :=
  ∀ name x : Value, answer ⟨.ofStandard (.binary .hasKey), [name, x]⟩ =
    BinaryTest.hasKey.holds name x

section

variable {xs ys : List (Value × Value)} {name : Value}

theorem fetch_of_lookup (named : name.isNull = false)
    (same : Value.lookup name xs = Value.lookup name ys) :
    fetch (.map xs) name = fetch (.map ys) name := by
  simp only [fetch, named, Bool.false_eq_true, if_false, same]

/-- A map has a key exactly if something can be looked up there. -/
theorem isIn_map (name : Value) (entries : List (Value × Value)) :
    name.isIn (.map entries) =
      if name.isKey then .ok (Value.lookup name entries).isSome else .error .unsupported := by
  have found : (entries.any fun e => name.sameKey e.1) =
      (entries.find? fun e => name.sameKey e.1).isSome := by
    rw [Bool.eq_iff_iff]
    simp
  rw [Value.isIn, Value.lookup, Option.isSome_map, found]

end

/-! ## Results -/

namespace Result

variable {x y : Value}

theorem withInput_gather (x y name subject : Value) (kind : FailureKind)
    (children : List (Value × Failure)) :
    (gather x name subject kind children).withInput y = gather y name subject kind children := by
  unfold gather
  split <;> rfl

theorem settle_withInput (op : Connective) (r : Result) :
    op.settle (r.withInput y) = (op.settle r).map (withInput y) := by
  cases op <;> cases r <;> rfl

theorem failure?_withInput (r : Result) :
    (r.withInput y).failure? = r.failure?.map fun f => { f with input := y } := by
  cases r <;> rfl

end Result

/-! ## Rules -/

variable {answer : Call → Except Fault Bool} {xs ys : List (Value × Value)}

/-- Whatever follows from the input only through a value that is the same for both inputs leads to
the same outcome, up to the input that is remembered. -/
theorem map_bind_congr {α ε : Type} {m : Except ε α} {f g : α → Except ε Result} {y : Value}
    (same : ∀ a, g a = (f a).map (Result.withInput y)) :
    m >>= g = (m >>= f).map (Result.withInput y) := by
  cases m with
  | error e => rfl
  | ok a => exact same a

/-- The test for keys says the same of both maps. -/
theorem run_key_of_agreeOn {c : Compiler} (tells : TellsKeys answer) {name : Value} {p : Predicate}
    {arguments : List Value} (formed : (Rule.key name p arguments).WellFormed c)
    (reads : (Rule.key name p arguments).readsFields = true)
    (same : Value.lookup name xs = Value.lookup name ys) :
    ((Rule.key name p arguments).run (.ofAnswers answer) (.map ys)).1 =
      ((Rule.key name p arguments).run (.ofAnswers answer) (.map xs)).1.map
        (Result.withInput (.map ys)) := by
  obtain ⟨named, isKeyTest⟩ := Bool.and_eq_true_iff.mp reads
  have found := fetch_of_lookup (by simpa using named) same
  have p_eq : p = .ofStandard (.binary .hasKey) := of_decide_eq_true isKeyTest
  subst p_eq
  have count : 1 + arguments.length = 1 := formed.2.count
  have none : arguments = [] := List.length_eq_zero_iff.mp (by omega)
  subst none
  have asked : ∀ entries, answer ⟨.ofStandard (.binary .hasKey), [] ++ [name, .map entries]⟩ =
      name.isIn (.map entries) := fun entries => tells name (.map entries)
  rw [run_key, run_key, asked, asked, isIn_map, isIn_map, same, found]
  refine map_bind_congr fun held => map_bind_congr fun subject => ?_
  cases held <;> rfl

/-- Joined rules remember the input that both of them remember. -/
theorem run_both_of_agreeOn {op : Connective} {left right : Rule} {y : Value}
    (ofLeft : (left.run (.ofAnswers answer) y).1 =
      (left.run (.ofAnswers answer) (.map xs)).1.map (Result.withInput y))
    (ofRight : (right.run (.ofAnswers answer) y).1 =
      (right.run (.ofAnswers answer) (.map xs)).1.map (Result.withInput y)) :
    ((Rule.both op left right).run (.ofAnswers answer) y).1 =
      ((Rule.both op left right).run (.ofAnswers answer) (.map xs)).1.map
        (Result.withInput y) := by
  rw [run_both, run_both, ofLeft]
  cases (left.run (.ofAnswers answer) (.map xs)).1 with
  | error e => rfl
  | ok r =>
    dsimp only [bind, Except.bind, Except.map]
    rw [Result.settle_withInput]
    cases op.settle r with
    | none => exact ofRight
    | some settled => rfl

theorem run_of_agreeOn {c : Compiler} (tells : TellsKeys answer) {rule : Rule}
    (formed : rule.WellFormed c) (reads : rule.readsFields = true)
    (agree : AgreeOn rule.fields xs ys) :
    (rule.run (.ofAnswers answer) (.map ys)).1 =
      (rule.run (.ofAnswers answer) (.map xs)).1.map (Result.withInput (.map ys)) := by
  cases rule with
  | key name p arguments =>
    exact run_key_of_agreeOn tells formed reads (agree name (List.mem_singleton_self _))
  | val name p arguments =>
    have found := fetch_of_lookup (by simpa [Rule.readsFields] using reads)
      (agree name (List.mem_singleton_self _))
    rw [run_val, run_val, found]
    refine map_bind_congr fun subject => map_bind_congr fun held => ?_
    cases held <;> rfl
  | each name rule =>
    have found := fetch_of_lookup (by simpa [Rule.readsFields] using reads)
      (agree name (List.mem_singleton_self _))
    rw [run_each, run_each, found]
    refine map_bind_congr fun subject => ?_
    cases subject with
    | seq kind items =>
      refine map_bind_congr fun results => ?_
      exact congrArg Except.ok (Result.withInput_gather ..).symm
    | _ => rfl
  | set name rules single =>
    have found := fetch_of_lookup (by simpa [Rule.readsFields] using reads)
      (agree name (List.mem_singleton_self _))
    rw [run_set, run_set, found]
    refine map_bind_congr fun subject => ?_
    cases subject with
    | map entries =>
      refine map_bind_congr fun results => ?_
      exact congrArg Except.ok (Result.withInput_gather ..).symm
    | _ => rfl
  | both op left right =>
    obtain ⟨first, second⟩ := Bool.and_eq_true_iff.mp reads
    have ofLeft := run_of_agreeOn tells formed.1 first
      fun n member => agree n (List.mem_append_left _ member)
    have ofRight := run_of_agreeOn tells formed.2 second
      fun n member => agree n (List.mem_append_right _ member)
    exact run_both_of_agreeOn ofLeft ofRight

/-! ## Documents and verdicts -/

/-- No report shows the whole input. -/
theorem Failure.items_withInput (f : Failure) (y around : Value) :
    ({ f with input := y } : Failure).items around = f.items around := by
  obtain ⟨_, _, _, _, _, kind, _⟩ := f
  cases kind <;> rfl

theorem Document.addFailures_withInput (fs : List Failure) (y : Value) (found : Document) :
    addFailures found (fs.map fun f => { f with input := y }) = addFailures found fs := by
  induction fs generalizing found with
  | nil => rfl
  | cons f rest ih => simp only [List.map_cons, addFailures, Failure.items_withInput, ih]

theorem Document.ofResults_withInput (results : List Result) (y : Value) :
    ofResults (results.map (Result.withInput y)) = ofResults results := by
  have failed : (results.map (Result.withInput y)).filterMap Result.failure? =
      (results.filterMap Result.failure?).map fun f => { f with input := y } := by
    rw [List.filterMap_map, List.map_filterMap]
    exact congrArg (List.filterMap · results) (funext Result.failure?_withInput)
  rw [ofResults, failed, addFailures_withInput, ofResults]

/-- The verdict from the same outcomes about another input. -/
def Verdict.withInput (y : Value) (v : Verdict) : Verdict :=
  { v with input := y, results := v.results.map (Result.withInput y) }

theorem Schema.run_of_outcomes {rules : List Rule} {x y : Value}
    (same : ∀ rule ∈ rules, (rule.run (.ofAnswers answer) y).1 =
      (rule.run (.ofAnswers answer) x).1.map (Result.withInput y)) (config : Config) :
    (Schema.run (.ofAnswers answer) ⟨rules, config⟩ y).1 =
      (Schema.run (.ofAnswers answer) ⟨rules, config⟩ x).1.map (Verdict.withInput y) := by
  have outcomes : (rules.mapM fun rule : Rule => (rule.run (.ofAnswers answer) y).1) =
      (rules.mapM fun rule : Rule => (rule.run (.ofAnswers answer) x).1).map
        (List.map (Result.withInput y)) := by
    induction rules with
    | nil => rfl
    | cons rule rest ih =>
      obtain ⟨first, others⟩ := List.forall_mem_cons.mp same
      rw [List.mapM_cons, List.mapM_cons, first, ih others]
      cases (rule.run (.ofAnswers answer) x).1 with
      | error e => rfl
      | ok r => cases rest.mapM fun rule : Rule => (rule.run (.ofAnswers answer) x).1 <;> rfl
  rw [run_ofAnswers, run_ofAnswers, outcomes]
  cases rules.mapM fun rule : Rule => (rule.run (.ofAnswers answer) x).1 with
  | error e => rfl
  | ok results =>
    change (Document.ofResults (results.map (Result.withInput y)) >>= _) = _
    rw [Document.ofResults_withInput]
    change _ = (Document.ofResults results >>= _).map _
    cases Document.ofResults results <;> rfl

/-- **Other fields are not seen.** Where answers depend on nothing but the question, compiled rules
that look at nothing of their input but fields come to the same about two maps that agree on these
fields: to the same fault, or to results that differ in the remembered input only. So every schema of
such rules comes to the same fault about both maps, or to verdicts with the same errors and, whatever
the message table, the scope and the locale are, with the same messages. -/
theorem other_fields_unseen {registry : Registry} {nodes : List Value} {rules : List Rule}
    (compiled : (Compiler.ofRegistry registry).compileAll nodes = .ok rules)
    (reads : ∀ rule ∈ rules, rule.readsFields = true) (tells : TellsKeys answer)
    (agree : ∀ rule ∈ rules, AgreeOn rule.fields xs ys) :
    (∀ rule ∈ rules, (rule.run (.ofAnswers answer) (.map ys)).1 =
      (rule.run (.ofAnswers answer) (.map xs)).1.map (Result.withInput (.map ys))) ∧
    ∀ config : Config,
      (∀ f, (Schema.run (.ofAnswers answer) ⟨rules, config⟩ (.map xs)).1 = .error f →
        (Schema.run (.ofAnswers answer) ⟨rules, config⟩ (.map ys)).1 = .error f) ∧
      ∀ v, (Schema.run (.ofAnswers answer) ⟨rules, config⟩ (.map xs)).1 = .ok v →
        ∃ v', (Schema.run (.ofAnswers answer) ⟨rules, config⟩ (.map ys)).1 = .ok v' ∧
          v'.results = v.results.map (Result.withInput (.map ys)) ∧
          v'.isSuccess = v.isSuccess ∧ v'.errors = v.errors ∧
          ∀ locale, v'.messages locale = v.messages locale := by
  have formed : Rule.AllWellFormed (.ofRegistry registry) rules :=
    Compiler.allWellFormed_of_derivesAll (Compiler.ofRegistry_lawful registry)
      (Compiler.derivesAll_of_compileAll compiled)
  have outcomes : ∀ rule ∈ rules, (rule.run (.ofAnswers answer) (.map ys)).1 =
      (rule.run (.ofAnswers answer) (.map xs)).1.map (Result.withInput (.map ys)) := by
    intro rule member
    obtain ⟨i, found⟩ := List.getElem?_of_mem member
    have own := Rule.wellFormed_of_getElem? formed found
    exact run_of_agreeOn tells own (reads rule member) (agree rule member)
  refine ⟨outcomes, fun config => ?_⟩
  rw [Schema.run_of_outcomes outcomes config]
  constructor
  · intro f came
    rw [came]
    rfl
  · intro v came
    rw [came]
    exact ⟨v.withInput (.map ys), rfl, rfl, rfl, rfl, fun _ => rfl⟩

/-- Nobody asked about a note on the order. -/
theorem other_fields_unseen_brokenOrder :
    ∃ v v', (Schema.run (.ofAnswers standardAnswer) ⟨[orderRule], .default⟩ brokenOrder).1 = .ok v ∧
      (Schema.run (.ofAnswers standardAnswer) ⟨[orderRule], .default⟩
        (.map ((.str "note", .int 7) :: brokenOrder.entries?.getD []))).1 = .ok v' ∧
      v'.errors = v.errors ∧ v.isSuccess = false := by
  have compiled : (Compiler.ofRegistry .standard).compileAll [orderRule.toNode] =
      .ok [orderRule] := bind_eq_ok_iff.mpr ⟨_, compile_orderRule, rfl⟩
  have tells : TellsKeys standardAnswer := fun _ _ => rfl
  have reads : ∀ rule ∈ [orderRule], rule.readsFields = true :=
    List.forall_mem_singleton.mpr (by decide)
  have agree : ∀ rule ∈ [orderRule], AgreeOn rule.fields (brokenOrder.entries?.getD [])
      ((.str "note", .int 7) :: brokenOrder.entries?.getD []) := by
    refine List.forall_mem_singleton.mpr fun name member => ?_
    have isItems : name = .str "items" := by simpa [orderRule, Rule.fields] using member
    rw [isItems]
    rfl
  have came : ∃ v, (Schema.run (.ofAnswers standardAnswer) ⟨[orderRule], .default⟩
      brokenOrder).1 = .ok v ∧ v.isSuccess = false := ⟨_, rfl, rfl⟩
  obtain ⟨v, came, failed⟩ := came
  obtain ⟨v', came', _, _, errors, _⟩ :=
    ((other_fields_unseen compiled reads tells agree).2 .default).2 v came
  exact ⟨v, v', came, came', errors, failed⟩

end Rulebook
