import Rulebook.Proofs.Report.Contents

/-!
What a document holds of the results it is made from. Main statements:
* `ofResults_eq_grouped`: the document of obtained results is their reports, grouped by name;
* `document_of_results`: it loses nothing, adds nothing and keeps the order, and the document of two
  lists of results is that of the one joined with that of the other.
-/

namespace Rulebook

open Evaluation

/-- A result that a compiled rule came to about some input, whatever its predicates answered. -/
def Result.Obtained (res : Result) : Prop :=
  ∃ (registry : Registry) (node : Value) (rule : Rule) (oracle : Oracle) (x : Value),
    (Compiler.ofRegistry registry).compile node = .ok rule ∧ (rule.run oracle x).1 = .ok res

theorem shaped_of_obtained {f : Failure} (obtained : (Result.failure f).Obtained) : f.Shaped := by
  obtain ⟨registry, node, rule, oracle, x, compiled, came⟩ := obtained
  have formed := Compiler.wellFormed_of_compile (Compiler.ofRegistry_lawful registry) compiled
  have reached : Reaches (rule.eval oracle x) (.failure f) := ⟨[], came⟩
  exact shaped_of_fails (fails_of_reaches reached) formed

/-- The failures among some results. -/
def failures (results : List Result) : List Failure := results.filterMap Result.failure?

theorem failures_append (results others : List Result) :
    failures (results ++ others) = failures results ++ failures others :=
  List.filterMap_append ..

theorem failures_filter_isFailure (results : List Result) :
    failures (results.filter Result.isFailure) = failures results := by
  induction results with
  | nil => rfl
  | cons r rest ih =>
    cases r with
    | success _ => exact ih
    | failure f => exact congrArg (f :: ·) ih

theorem shaped_of_mem_failures {results : List Result} (obtained : ∀ r ∈ results, r.Obtained)
    {f : Failure} (member : f ∈ failures results) : f.Shaped := by
  obtain ⟨r, inside, isFailure⟩ := List.mem_filterMap.mp member
  rw [Result.failure?_eq_some_iff.mp isFailure] at inside
  exact shaped_of_obtained (obtained _ inside)

/-! ## Documents -/

namespace Document

/-- The report of every failure under its own name, without any grouping. -/
def parts (fs : List Failure) : Document := fs.map fun f => (f.name, f.report f.name)

theorem names_parts (fs : List Failure) : (parts fs).map (·.1) = fs.map (·.name) := by
  simp [parts, Function.comp_def]

theorem areNames_parts {fs : List Failure} (shaped : ∀ f ∈ fs, f.Shaped) :
    AreNames ((parts fs).map (·.1)) := by
  rw [names_parts]
  intro n member
  obtain ⟨f, inside, rfl⟩ := List.mem_map.mp member
  exact (shaped f inside).named

theorem addFailures_eq_foldl {fs : List Failure} (shaped : ∀ f ∈ fs, f.Shaped) (found : Document) :
    addFailures found fs =
      .ok ((parts fs).foldl (fun found p => Fields.extend p.1 p.2 found) found) := by
  induction fs generalizing found with
  | nil => rfl
  | cons f rest ih =>
    have first := shaped f (List.mem_cons_self ..)
    have others := ih fun g member => shaped g (List.mem_cons_of_mem _ member)
    exact bind_eq_ok_iff.mpr ⟨_, Failure.asKey_of_isKey (Value.isKey_of_isName first.named),
      bind_eq_ok_iff.mpr ⟨_, Failure.items_eq_report first first.named, others _⟩⟩

theorem ofResults_of_shaped {results : List Result}
    (shaped : ∀ f ∈ failures results, f.Shaped) :
    ofResults results = .ok (Fields.grouped (parts (failures results))) := by
  have added := addFailures_eq_foldl shaped []
  rwa [Fields.foldl_extend_eq_grouped (areNames_parts shaped)] at added

theorem ofResults_eq_grouped {results : List Result} (obtained : ∀ r ∈ results, r.Obtained) :
    ofResults results = .ok (Fields.grouped (parts (failures results))) :=
  ofResults_of_shaped fun _ => shaped_of_mem_failures obtained

/-- What the failures with a name contribute under it. -/
theorem under_parts {fs : List Failure} (shaped : ∀ f ∈ fs, f.Shaped) {name : Value}
    (isName : name.isName true = true) :
    Fields.under (parts fs) name =
      (fs.filter fun f => name.sameKey f.name).flatMap (·.report name) := by
  have same : ∀ f ∈ fs.filter (fun f => name.sameKey f.name), f.name = name := by
    intro f member
    obtain ⟨inside, sameKey⟩ := List.mem_filter.mp member
    exact ((Value.sameKey_iff_eq isName (shaped f inside).named).mp sameKey).symm
  rw [Fields.under, parts, List.filter_map, List.flatMap_map]
  exact List.flatMap_congr fun f member => by rw [same f member]

/-- A document that is an account of some failures: it has their names in the order in which they
first fail; under every name, what the failures with it report; and as entries, one by one and in
order, their failed checks, each at the end of the steps that lead to it. -/
structure Accounts (doc : Document) (fs : List Failure) : Prop where
  names : doc.map (·.1) = distinctNames (fs.map (·.name))
  items : ∀ name items, (name, items) ∈ doc →
    items = (fs.filter fun f => name.sameKey f.name).flatMap (·.report name)
  entries : ∀ name items, (name, items) ∈ doc →
    List.Forall₂ (fun l c => l.1 = c.1.map Step.key ∧ l.2.Tells (innermost name c.1) c.2)
      (Report.leavesOfItems items)
      ((fs.filter fun f => name.sameKey f.name).flatMap (·.checks name))

theorem tells_leaves {fs : List Failure} (shaped : ∀ f ∈ fs, f.Shaped) (name : Value) :
    List.Forall₂ (fun l c => l.1 = c.1.map Step.key ∧ l.2.Tells (innermost name c.1) c.2)
      (Report.leavesOfItems (fs.flatMap (·.report name))) (fs.flatMap (·.checks name)) := by
  have leaves : Report.leavesOfItems (fs.flatMap (·.report name)) =
      (fs.flatMap (·.checks name)).map (Failure.told name) := by
    rw [Report.leavesOfItems_flatMap, List.map_flatMap]
    exact List.flatMap_congr fun f member => Failure.leaves_report (shaped f member) name
  rw [leaves, List.forall₂_map_left_iff, List.forall₂_same]
  intro c member
  obtain ⟨f, inside, below⟩ := List.mem_flatMap.mp member
  have asked := Failure.asked_of_mem_checks (shaped f inside) below
  exact ⟨rfl, Failure.tells_entry asked _⟩

theorem accounts_grouped {fs : List Failure} (shaped : ∀ f ∈ fs, f.Shaped) :
    Accounts (Fields.grouped (parts fs)) fs := by
  have named := areNames_parts shaped
  have items : ∀ name items, (name, items) ∈ Fields.grouped (parts fs) →
      items = (fs.filter fun f => name.sameKey f.name).flatMap (·.report name) := by
    intro name items member
    obtain ⟨_, inside, same⟩ := List.mem_map.mp member
    cases same
    exact under_parts shaped (named.distinctNames name inside)
  refine ⟨?_, items, fun name under member => ?_⟩
  · rw [Fields.grouped, Fields.keys_map, names_parts]
  · rw [items name under member]
    exact tells_leaves (fun f member => shaped f (List.mem_filter.mp member).1) name

/-- What is said of the failed checks of some failures, each at the end of its steps, is said of all
entries of an account and the keys that lead to them. -/
theorem Accounts.forall_paths {doc : Document} {fs : List Failure}
    (accounts : Accounts doc fs) {P : List Value → Entry → Prop}
    (all : ∀ f ∈ fs, ∀ around ∈ fs.map (·.name), ∀ c ∈ f.checks around, ∀ e : Entry,
      e.Tells (innermost around c.1) c.2 → P (around :: c.1.map Step.key) e) :
    ∀ l ∈ Report.leavesOfFields doc, P l.1 l.2 := by
  intro l member
  rw [Report.leavesOfFields_eq_flatMap] at member
  obtain ⟨p, field, member⟩ := List.mem_flatMap.mp member
  obtain ⟨l', inside, rfl⟩ := List.mem_map.mp member
  obtain ⟨i, found⟩ := List.getElem?_of_mem inside
  obtain ⟨c, told, path, tells⟩ := exists_related (accounts.entries p.1 p.2 field) found
  obtain ⟨f, known, below⟩ := List.mem_flatMap.mp (List.mem_of_getElem? told)
  have isName : p.1 ∈ fs.map (·.name) :=
    mem_of_mem_distinctNames (accounts.names ▸ List.mem_map_of_mem field)
  rw [path]
  exact all f (List.mem_filter.mp known).1 p.1 isName c below l'.2 tells

theorem Accounts.forall_leaves {doc : Document} {fs : List Failure}
    (accounts : Accounts doc fs) {P : Entry → Prop}
    (all : ∀ f ∈ fs, ∀ around ∈ fs.map (·.name), ∀ c ∈ f.checks around, ∀ e : Entry,
      e.Tells (innermost around c.1) c.2 → P e) :
    ∀ l ∈ Report.leavesOfFields doc, P l.2 :=
  accounts.forall_paths (P := fun _ => P) all

/-- Every entry of a document has a name. -/
theorem names_grouped {fs : List Failure} (shaped : ∀ f ∈ fs, f.Shaped) :
    ∀ l ∈ Report.leavesOfFields (Fields.grouped (parts fs)), l.2.name.isName true = true := by
  have accounts := accounts_grouped shaped
  refine accounts.forall_leaves (P := fun e => e.name.isName true = true)
    fun f member around isName c below e tells => ?_
  obtain ⟨g, known, rfl⟩ := List.mem_map.mp isName
  rw [tells.name]
  exact Failure.named_of_mem_checks (shaped f member) (shaped g known).named below

/-- **Documents are accounts.** The document of results that compiled rules came to exists and is an
account of their failures. Successes add nothing to it, and the document of two lists of results
says, name by name, first what that of the one says and then what that of the other says. -/
theorem document_of_results {results : List Result} (obtained : ∀ r ∈ results, r.Obtained) :
    ∃ doc, ofResults results = .ok doc ∧ doc.Accounts (failures results) ∧
      ofResults (results.filter Result.isFailure) = .ok doc ∧
      ∀ others : List Result, (∀ r ∈ others, r.Obtained) → ∃ doc',
        ofResults others = .ok doc' ∧ ofResults (results ++ others) = .ok (doc.joined doc') := by
  have shaped : ∀ f ∈ failures results, f.Shaped := fun f => shaped_of_mem_failures obtained
  refine ⟨_, ofResults_eq_grouped obtained, accounts_grouped shaped, ?_, fun others obtained' => ?_⟩
  · have kept : ∀ r ∈ results.filter Result.isFailure, r.Obtained :=
      fun r member => obtained r (List.mem_filter.mp member).1
    rw [ofResults_eq_grouped kept, failures_filter_isFailure]
  · have all : ∀ r ∈ results ++ others, r.Obtained := by
      simpa [or_imp, forall_and] using And.intro obtained obtained'
    have shapedAll : ∀ f ∈ failures (results ++ others), f.Shaped :=
      fun f => shaped_of_mem_failures all
    have named := areNames_parts shapedAll
    refine ⟨_, ofResults_eq_grouped obtained', ?_⟩
    rw [ofResults_eq_grouped all]
    rw [failures_append, parts, List.map_append] at named ⊢
    exact congrArg _ (Fields.grouped_append named)

theorem obtained_orderRule {x : Value} {res : Result}
    (came : (orderRule.run (.ofAnswers standardAnswer) x).1 = .ok res) : res.Obtained :=
  ⟨.standard, _, orderRule, _, x, compile_orderRule, came⟩

/-- A broken order, one without faults, one without items and one with an item that is no map: what is
wrong with them stands under one name. The rule for items has no name, so what it says of an item that
is no map is told under the name around it. -/
theorem document_of_results_orders :
    ∃ broken sound empty shapeless,
      (orderRule.run (.ofAnswers standardAnswer) brokenOrder).1 = .ok broken ∧
      (orderRule.run (.ofAnswers standardAnswer)
        (.map [(.str "items", .list [])])).1 = .ok sound ∧
      (orderRule.run (.ofAnswers standardAnswer) (.map [])).1 = .ok empty ∧
      (orderRule.run (.ofAnswers standardAnswer)
        (.map [(.str "items", .list [.int 3])])).1 = .ok shapeless ∧
      (∀ r ∈ [broken, sound, empty, shapeless], r.Obtained) ∧
      ∃ doc, ofResults [broken, sound, empty, shapeless] = .ok doc ∧
        doc.Accounts (failures [broken, sound, empty, shapeless]) ∧
        doc.map (·.1) = [.str "items"] ∧
        (Report.leavesOfFields doc).map (fun l => (l.1, l.2.name)) =
          [([.str "items", .int 1, .str "name"], .str "name"),
            ([.str "items", .int 1, .str "size"], .str "size"),
            ([.str "items"], .str "items"), ([.str "items", .int 0], .str "items")] := by
  refine ⟨_, _, _, _, rfl, rfl, rfl, rfl, ?_⟩
  have obtained := List.forall_mem_cons.mpr ⟨obtained_orderRule (x := brokenOrder) rfl,
    List.forall_mem_cons.mpr ⟨obtained_orderRule (x := .map [(.str "items", .list [])]) rfl,
      List.forall_mem_cons.mpr ⟨obtained_orderRule (x := .map []) rfl,
        List.forall_mem_singleton.mpr
          (obtained_orderRule (x := .map [(.str "items", .list [.int 3])]) rfl)⟩⟩⟩
  obtain ⟨doc, made, accounts, _⟩ := document_of_results obtained
  refine ⟨obtained, doc, made, accounts, accounts.names.trans rfl, ?_⟩
  cases made
  rfl

end Document

end Rulebook
