import Rulebook.Proofs.Evaluation.Certificate
import Rulebook.Proofs.Report.Grouping

/-!
What reports of failures hold. A failure has a report of its own, told without any grouping, and a
list of failed checks with the steps that lead to them. Main statements:
* `shaped_of_fails`: the failures of well-formed rules have their names, positions and parts in order;
* `items_eq_report`: on these, adding items under keys never merges or loses anything;
* `leaves_report`: the entries of a report are the failed checks, in order;
* `named_of_mem_checks`: and all of them stand under names;
* `checked_of_mem_checks`: and each is a key, a value or a shape that a rule denies.
-/

namespace Rulebook

/-! ## Entries and their paths -/

namespace Report

variable {α : Type}

mutual

/-- The statements of a report in order, each with the keys that lead to it. -/
def leaves : Report α → List (List Value × α)
  | .leaf a => [([], a)]
  | .nested fields => leavesOfFields fields

def leavesOfItems : List (Report α) → List (List Value × α)
  | [] => []
  | item :: rest => item.leaves ++ leavesOfItems rest

def leavesOfFields : List (Value × List (Report α)) → List (List Value × α)
  | [] => []
  | (key, items) :: rest =>
    (leavesOfItems items).map (fun l => (key :: l.1, l.2)) ++ leavesOfFields rest

end

theorem leavesOfItems_append (a b : List (Report α)) :
    leavesOfItems (a ++ b) = leavesOfItems a ++ leavesOfItems b := by
  induction a with
  | nil => rfl
  | cons item rest ih => simp [leavesOfItems, ih]

theorem leavesOfItems_flatMap {β : Type} (bs : List β) (f : β → List (Report α)) :
    leavesOfItems (bs.flatMap f) = bs.flatMap fun b => leavesOfItems (f b) := by
  induction bs with
  | nil => rfl
  | cons b rest ih => rw [List.flatMap_cons, leavesOfItems_append, ih, List.flatMap_cons]

theorem leavesOfFields_eq_flatMap (fields : Fields α) :
    leavesOfFields fields =
      fields.flatMap fun p => (leavesOfItems p.2).map fun l => (p.1 :: l.1, l.2) := by
  induction fields with
  | nil => rfl
  | cons p rest ih => rw [leavesOfFields, ih, List.flatMap_cons]

end Report

/-- A step from a value to a part of it: to what a map has at a name, or to an item of a
sequence. -/
inductive Step where
  | field (name : Value)
  | position (index : Value)

/-- The key that a report has for a step. -/
def Step.key : Step → Value
  | .field name => name
  | .position index => index

/-- The innermost name among some steps, or the name around them if there is none. -/
def innermost (around : Value) (steps : List Step) : Value :=
  steps.foldl (fun found s => match s with | .field name => name | .position _ => found) around

/-- The name under which something is told: its own one, or the name around it if it has none. -/
def ownName (around : Value) : Value → Value
  | .null => around
  | name => name

theorem ownName_of_isNull {name : Value} (null : name.isNull = true) (around : Value) :
    ownName around name = around := by
  rw [Value.eq_null_of_isNull null]
  rfl

theorem ownName_of_isNull_eq_false {name : Value} (named : name.isNull = false) (around : Value) :
    ownName around name = name := by
  unfold ownName
  split
  · cases named
  · rfl

theorem nameOr_eq_ownName (name around : Value) : nameOr name around = ownName around name := by
  unfold nameOr
  split
  · rename_i null
    exact (ownName_of_isNull null around).symm
  · rename_i named
    exact (ownName_of_isNull_eq_false (by simpa using named) around).symm

namespace Failure

/-- The step from a failure of a kind, listed under a name, to a child with a label. -/
def stepTo (around : Value) (kind : FailureKind) (label : Value) : Step :=
  if kind = .each then .position label else .field (ownName around label)

mutual

/-- The failed checks below a failure in order, each with the steps that lead to it from there. -/
def checks (around : Value) : Failure → List (List Step × Failure)
  | ⟨x, name, predicate, arguments, value, kind, children⟩ =>
    if children.isEmpty then [([], ⟨x, name, predicate, arguments, value, kind, children⟩)]
    else checksOf around kind children

def checksOf (around : Value) (kind : FailureKind) :
    List (Value × Failure) → List (List Step × Failure)
  | [] => []
  | (label, f) :: rest =>
    let step := stepTo around kind label
    (f.checks (innermost around [step])).map (fun c => (step :: c.1, c.2))
      ++ checksOf around kind rest

end

/-- The entry of a failed check that is listed under a name. -/
def entry (around : Value) (f : Failure) : Entry where
  name := ownName around f.name
  predicate := f.predicate.getD "None"
  arguments := f.arguments
  value := f.value
  ruleType := f.kind.text

mutual

/-- What a failure contributes to the report under a name: a failed check one entry, a sequence one
report with the failed positions as its keys, and a map one report with one key for each child. -/
def report (around : Value) : Failure → List (Report Entry)
  | ⟨_, _, _, _, _, .each, children⟩ => [.nested (reportPositions around children)]
  | ⟨_, _, _, _, _, .set, children⟩ => reportFields around children
  | ⟨x, name, predicate, arguments, value, kind, children⟩ =>
    [.leaf (entry around ⟨x, name, predicate, arguments, value, kind, children⟩)]

def reportPositions (around : Value) : List (Value × Failure) → Document
  | [] => []
  | (index, f) :: rest => (index, f.report around) :: reportPositions around rest

def reportFields (around : Value) : List (Value × Failure) → List (Report Entry)
  | [] => []
  | (name, f) :: rest =>
    .nested [(ownName around name, f.report (ownName around name))] :: reportFields around rest

end

end Failure

/-- An entry tells a failed check: its predicate, its arguments, its value and its kind, under its
own name or, if it has none, under the innermost name around it. -/
structure Entry.Tells (e : Entry) (around : Value) (f : Failure) : Prop where
  name : e.name = ownName around f.name
  predicate : f.predicate = some e.predicate
  arguments : e.arguments = f.arguments
  value : e.value = f.value
  ruleType : e.ruleType = f.kind.text

/-! ## The shape of failures -/

/-- The failures that well-formed rules have: names are names, the children of a sequence stand
under rising positions, those of a map under their own names, and only checks have no children. -/
inductive Failure.Shaped : Failure → Prop where
  | check {f : Failure} (named : f.name.isName true = true) (kind : f.kind = .key ∨ f.kind = .val)
      (childless : f.children = []) (asked : f.predicate.isSome = true) : Shaped f
  | each {f : Failure} {positions : List Nat} (named : f.name.isName true = true)
      (isEach : f.kind = .each) (nonempty : f.children ≠ [])
      (labels : f.children.map (·.1) = positions.map fun (i : Nat) => .int i)
      (rising : positions.Pairwise (· < ·)) (shaped : ∀ c ∈ f.children, c.2.Shaped) : Shaped f
  | set {f : Failure} (named : f.name.isName true = true) (isSet : f.kind = .set)
      (nonempty : f.children ≠ []) (labels : ∀ c ∈ f.children, c.1 = c.2.name)
      (shaped : ∀ c ∈ f.children, c.2.Shaped) : Shaped f

theorem Failure.Shaped.named {f : Failure} (shaped : f.Shaped) : f.name.isName true = true := by
  cases shaped <;> assumption

theorem shaped_of_fails {c : Compiler} {oracle : Oracle} {rule : Rule} {x : Value} {f : Failure}
    (fails : Fails oracle rule x f) (formed : rule.WellFormed c) : f.Shaped := by
  induction fails with
  | key _ _ => exact .check (Value.isName_of_isName_false formed.1) (.inl rfl) rfl rfl
  | val _ _ => exact .check formed.1 (.inr rfl) rfl rfl
  | notSequence _ _ => exact .check formed.1 (.inr rfl) rfl rfl
  | @each name rule x kind items results found all nonempty failed ih =>
    have rising := List.pairwise_map.mpr (pairwise_failing results 0)
    refine .each formed.1 rfl (by simpa using nonempty) ?_ rising fun c member => ?_
    · simp [Function.comp_def]
    · obtain ⟨i, y, item, result, _⟩ := exists_failed_item all member
      exact ih i y c.2 item result formed.2
  | notMap _ _ => exact .check formed.1 (.inr rfl) rfl rfl
  | @set name rules single x entries results found all nonempty failed ih =>
    refine .set formed.1 rfl (by simpa using nonempty) (fun c member => ?_) fun c member => ?_
    · obtain ⟨_, _, _, _, label⟩ := exists_failed_rule all member
      exact label
    · obtain ⟨i, rule, nested, result, _⟩ := exists_failed_rule all member
      exact ih i rule c.2 nested result (Rule.wellFormed_of_getElem? formed.2.2.2 nested)
  | left _ ih => exact ih formed.1
  | right _ ih => exact ih formed.2

/-! ## Reports and documents -/

namespace Failure

theorem asKey_of_isKey {name : Value} (keyed : name.isKey = true) : asKey name = .ok name :=
  if_pos keyed

theorem reportPositions_eq_map (around : Value) (children : List (Value × Failure)) :
    reportPositions around children = children.map fun c => (c.1, c.2.report around) := by
  induction children with
  | nil => rfl
  | cons c rest ih => rw [reportPositions, ih, List.map_cons]

theorem positions_eq_foldl {around : Value} {children : List (Value × Failure)}
    (keys : ∀ c ∈ children, c.1.isKey = true)
    (inner : ∀ c ∈ children, c.2.items around = .ok (c.2.report around)) (found : Document) :
    positions around children found =
      .ok ((reportPositions around children).foldl (fun found p => Fields.extend p.1 p.2 found)
        found) := by
  induction children generalizing found with
  | nil => rfl
  | cons c rest ih =>
    have others := ih (fun c member => keys c (List.mem_cons_of_mem _ member))
      (fun c member => inner c (List.mem_cons_of_mem _ member))
    exact bind_eq_ok_iff.mpr ⟨_, asKey_of_isKey (keys c (List.mem_cons_self ..)),
      bind_eq_ok_iff.mpr ⟨_, inner c (List.mem_cons_self ..), others _⟩⟩

theorem fieldItems_eq {around : Value} {children : List (Value × Failure)}
    (keys : ∀ c ∈ children, (ownName around c.1).isKey = true)
    (inner : ∀ c ∈ children,
      c.2.items (ownName around c.1) = .ok (c.2.report (ownName around c.1))) :
    fieldItems around children = .ok (reportFields around children) := by
  induction children with
  | nil => rfl
  | cons c rest ih =>
    have others := ih (fun c member => keys c (List.mem_cons_of_mem _ member))
      (fun c member => inner c (List.mem_cons_of_mem _ member))
    rw [fieldItems, nameOr_eq_ownName]
    exact bind_eq_ok_iff.mpr ⟨_, asKey_of_isKey (keys c (List.mem_cons_self ..)),
      bind_eq_ok_iff.mpr ⟨_, inner c (List.mem_cons_self ..),
        bind_eq_ok_iff.mpr ⟨_, others, rfl⟩⟩⟩

theorem isName_ownName {name around : Value} (named : name.isName true = true)
    (named' : around.isName true = true) : (ownName around name).isName true = true := by
  cases null : name.isNull with
  | true => rwa [ownName_of_isNull null]
  | false => rwa [ownName_of_isNull_eq_false null]

theorem areNames_positions (positions : List Nat) :
    AreNames (positions.map fun (i : Nat) => .int i) := by
  intro n member
  obtain ⟨i, _, rfl⟩ := List.mem_map.mp member
  rfl

theorem nodup_positions {positions : List Nat} (rising : positions.Pairwise (· < ·)) :
    (positions.map fun (i : Nat) => Value.int i).Nodup := by
  refine List.pairwise_map.mpr (rising.imp fun less same => ?_)
  injections
  omega

/-- Positions are different keys, so nothing is merged under them. -/
theorem items_eq_report {f : Failure} (shaped : f.Shaped) {around : Value}
    (named : around.isName true = true) : f.items around = .ok (f.report around) := by
  induction shaped generalizing around with
  | @check f _ kind childless _ =>
    obtain ⟨_, _, _, _, _, _, _⟩ := f
    rcases kind with rfl | rfl <;> simp only [items, report, entry, nameOr_eq_ownName]
  | @each f positions _ isEach _ labels rising _ ih =>
    obtain ⟨_, _, _, _, _, _, children⟩ := f
    cases isEach
    have keys : (reportPositions around children).map (·.1) =
        positions.map fun (i : Nat) => .int i := by
      rw [← labels, reportPositions_eq_map, List.map_map]
      rfl
    have names := keys.symm ▸ areNames_positions positions
    have nodup := keys.symm ▸ nodup_positions rising
    have labelled : ∀ c ∈ children, c.1.isKey = true := by
      intro c member
      have label := labels ▸ areNames_positions positions
      exact Value.isKey_of_isName (label c.1 (List.mem_map_of_mem member))
    -- The loop adds every child under its position; no position comes twice, so it only appends.
    have added := positions_eq_foldl labelled (fun c member => ih c member named) []
    rw [Fields.foldl_extend_eq_grouped names, Fields.grouped_eq_self names nodup] at added
    exact bind_eq_ok_iff.mpr ⟨_, added, rfl⟩
  | @set f _ isSet _ labels shaped ih =>
    obtain ⟨_, _, _, _, _, _, children⟩ := f
    cases isSet
    have names : ∀ c ∈ children, (ownName around c.1).isName true = true := by
      intro c member
      rw [labels c member]
      exact isName_ownName (shaped c member).named named
    exact fieldItems_eq (fun c member => Value.isKey_of_isName (names c member))
      fun c member => ih c member (names c member)

/-- A failed check as a report tells it. -/
def told (around : Value) (c : List Step × Failure) : List Value × Entry :=
  (c.1.map Step.key, c.2.entry (innermost around c.1))

theorem leaves_child {around : Value} {step : Step} {f : Failure}
    (inner : Report.leavesOfItems (f.report (innermost around [step])) =
      (f.checks (innermost around [step])).map (told (innermost around [step]))) :
    (Report.leavesOfItems (f.report (innermost around [step]))).map
        (fun l => (step.key :: l.1, l.2)) =
      ((f.checks (innermost around [step])).map fun c => (step :: c.1, c.2)).map (told around) := by
  rw [inner, List.map_map, List.map_map]
  exact List.map_congr_left fun c _ => rfl

theorem leaves_reportPositions {around : Value} {children : List (Value × Failure)}
    (inner : ∀ c ∈ children, Report.leavesOfItems (c.2.report around) =
      (c.2.checks around).map (told around)) :
    Report.leavesOfFields (reportPositions around children) =
      (checksOf around .each children).map (told around) := by
  induction children with
  | nil => rfl
  | cons c rest ih =>
    have first := @leaves_child around (.position c.1) c.2 (inner c (List.mem_cons_self ..))
    have others := ih fun c member => inner c (List.mem_cons_of_mem _ member)
    rw [reportPositions, checksOf, Report.leavesOfFields, List.map_append, others]
    exact congrArg (· ++ _) first

theorem leaves_reportFields {around : Value} {children : List (Value × Failure)}
    (inner : ∀ c ∈ children, Report.leavesOfItems (c.2.report (ownName around c.1)) =
      (c.2.checks (ownName around c.1)).map (told (ownName around c.1))) :
    Report.leavesOfItems (reportFields around children) =
      (checksOf around .set children).map (told around) := by
  induction children with
  | nil => rfl
  | cons c rest ih =>
    have first := @leaves_child around (.field (ownName around c.1)) c.2
      (inner c (List.mem_cons_self ..))
    have others := ih fun c member => inner c (List.mem_cons_of_mem _ member)
    rw [reportFields, checksOf, Report.leavesOfItems, List.map_append, others, Report.leaves,
      Report.leavesOfFields, Report.leavesOfFields, List.append_nil]
    exact congrArg (· ++ _) first

/-- The entries of a report are the failed checks, in order and under their paths. -/
theorem leaves_report {f : Failure} (shaped : f.Shaped) (around : Value) :
    Report.leavesOfItems (f.report around) = (f.checks around).map (told around) := by
  induction shaped generalizing around with
  | @check f _ kind childless _ =>
    obtain ⟨_, _, _, _, _, _, _⟩ := f
    cases childless
    rcases kind with rfl | rfl <;> rfl
  | @each f positions _ isEach nonempty _ _ _ ih =>
    obtain ⟨_, _, _, _, _, _, children⟩ := f
    cases isEach
    have inner := leaves_reportPositions fun c member => ih c member around
    rw [checks, if_neg (by simpa using nonempty), ← inner]
    exact List.append_nil _
  | @set f _ isSet nonempty _ _ ih =>
    obtain ⟨_, _, _, _, _, _, children⟩ := f
    cases isSet
    rw [checks, if_neg (by simpa using nonempty)]
    exact leaves_reportFields fun c member => ih c member _

theorem checksOf_eq_flatMap (around : Value) (kind : FailureKind)
    (children : List (Value × Failure)) :
    checksOf around kind children = children.flatMap fun child =>
      (child.2.checks (innermost around [stepTo around kind child.1])).map fun c =>
        (stepTo around kind child.1 :: c.1, c.2) := by
  induction children with
  | nil => rfl
  | cons child rest ih => rw [checksOf, ih, List.flatMap_cons]

theorem checks_of_childless {f : Failure} (childless : f.children = []) (around : Value) :
    f.checks around = [([], f)] := by
  cases f
  exact if_pos (List.isEmpty_iff.mpr childless)

theorem checks_of_children {f : Failure} (nonempty : f.children ≠ []) (around : Value) :
    f.checks around = checksOf around f.kind f.children := by
  cases f
  exact if_neg (by simpa using nonempty)

theorem exists_of_mem_checks {f : Failure} (nonempty : f.children ≠ []) {around : Value}
    {c : List Step × Failure} (member : c ∈ f.checks around) :
    ∃ child ∈ f.children,
      ∃ c' ∈ child.2.checks (innermost around [stepTo around f.kind child.1]),
        c = (stepTo around f.kind child.1 :: c'.1, c'.2) := by
  rw [checks_of_children nonempty, checksOf_eq_flatMap] at member
  obtain ⟨child, inside, member⟩ := List.mem_flatMap.mp member
  obtain ⟨c', member', rfl⟩ := List.mem_map.mp member
  exact ⟨child, inside, c', member', rfl⟩

theorem asked_of_mem_checks {f : Failure} (shaped : f.Shaped) {around : Value}
    {c : List Step × Failure} (member : c ∈ f.checks around) : c.2.predicate.isSome = true := by
  induction shaped generalizing around c with
  | check _ _ childless asked =>
    rw [checks_of_childless childless] at member
    cases List.mem_singleton.mp member
    exact asked
  | each _ _ nonempty _ _ _ ih =>
    obtain ⟨child, inside, c', member', rfl⟩ := exists_of_mem_checks nonempty member
    have asked := ih child inside member'
    exact asked
  | set _ _ nonempty _ _ ih =>
    obtain ⟨child, inside, c', member', rfl⟩ := exists_of_mem_checks nonempty member
    have asked := ih child inside member'
    exact asked

/-- Failed checks are listed under names. -/
theorem named_of_mem_checks {f : Failure} (shaped : f.Shaped) {around : Value}
    (named : around.isName true = true) {c : List Step × Failure} (member : c ∈ f.checks around) :
    (ownName (innermost around c.1) c.2.name).isName true = true := by
  induction shaped generalizing around c with
  | check named' _ childless _ =>
    rw [checks_of_childless childless] at member
    cases List.mem_singleton.mp member
    exact isName_ownName named' named
  | each _ isEach nonempty _ _ _ ih =>
    obtain ⟨child, inside, c', member', rfl⟩ := exists_of_mem_checks nonempty member
    rw [stepTo, if_pos isEach] at member' ⊢
    have below := ih child inside named member'
    exact below
  | set _ isSet nonempty labels shaped ih =>
    obtain ⟨child, inside, c', member', rfl⟩ := exists_of_mem_checks nonempty member
    have isField : stepTo around .set child.1 = .field (ownName around child.1) := rfl
    rw [isSet, isField] at member' ⊢
    have childName := labels child inside ▸ (shaped child inside).named
    have below := ih child inside (isName_ownName childName named) member'
    exact below

/-- The steps to failed checks have names or positions as their keys. -/
theorem keyed_of_mem_checks {f : Failure} (shaped : f.Shaped) {around : Value}
    (named : around.isName true = true) {c : List Step × Failure} (member : c ∈ f.checks around) :
    AreNames (c.1.map Step.key) := by
  induction shaped generalizing around c with
  | check _ _ childless _ =>
    rw [checks_of_childless childless] at member
    cases List.mem_singleton.mp member
    exact nofun
  | @each f positions _ isEach nonempty labels _ _ ih =>
    obtain ⟨child, inside, c', member', rfl⟩ := exists_of_mem_checks nonempty member
    rw [stepTo, if_pos isEach] at member' ⊢
    have numbered := labels ▸ areNames_positions positions
    exact List.forall_mem_cons.mpr
      ⟨numbered _ (List.mem_map_of_mem inside), ih child inside named member'⟩
  | set _ isSet nonempty labels shaped ih =>
    obtain ⟨child, inside, c', member', rfl⟩ := exists_of_mem_checks nonempty member
    have isField : stepTo around .set child.1 = .field (ownName around child.1) := rfl
    rw [isSet, isField] at member' ⊢
    have childName := labels child inside ▸ (shaped child inside).named
    have here := isName_ownName childName named
    exact List.forall_mem_cons.mpr ⟨here, ih child inside here member'⟩

/-- The failures without parts that well-formed rules come to: a key or a value of which a predicate
is denied, or a value of another shape than the rule is about. -/
inductive Checked (c : Compiler) (oracle : Oracle) : Failure → Prop where
  | key {name : Value} {p : Predicate} {arguments : List Value} {x subject : Value}
      {before : List Call} (named : name.isName false = true) (holds : c.Holds 1 p arguments)
      (denied : oracle before ⟨p, arguments ++ [name, x]⟩ = .ok false) :
      Checked c oracle
        { input := x, name, predicate := some p.id, arguments := p.bind (arguments ++ [name]),
          value := subject, kind := .key }
  | val {name : Value} {p : Predicate} {arguments : List Value} {x subject : Value}
      {before : List Call} (holds : c.Holds 0 p arguments)
      (denied : oracle before ⟨p, arguments ++ [subject]⟩ = .ok false) :
      Checked c oracle
        { input := x, name, predicate := some p.id, arguments := p.bind arguments,
          value := subject }
  | notSequence {name x subject : Value} (other : subject.isSeq = false) :
      Checked c oracle
        { input := x, name, predicate := some UnaryTest.sequence.id, value := subject }
  | notMap {name x subject : Value} (other : subject.isMap = false) :
      Checked c oracle
        { input := x, name, predicate := some UnaryTest.mapping.id, value := subject }

/-- Every failed check below a failure is one without parts. -/
theorem checked_of_mem_checks {c : Compiler} {oracle : Oracle} {rule : Rule} {x : Value}
    {f : Failure} (fails : Fails oracle rule x f) (formed : rule.WellFormed c) {around : Value}
    {check : List Step × Failure} (member : check ∈ f.checks around) :
    check.2.Checked c oracle := by
  induction fails generalizing around check with
  | key _ denied =>
    cases List.mem_singleton.mp member
    exact .key formed.1 formed.2 denied
  | val _ denied =>
    cases List.mem_singleton.mp member
    exact .val formed.2 denied
  | notSequence _ other =>
    cases List.mem_singleton.mp member
    exact .notSequence other
  | @each name rule x kind items results found all nonempty failed ih =>
    obtain ⟨child, inside, below, member', rfl⟩ :=
      exists_of_mem_checks (by simpa using nonempty) member
    obtain ⟨i, y, item, result, _⟩ := exists_failed_item all inside
    have checked := ih i y child.2 item result formed.2 member'
    exact checked
  | notMap _ other =>
    cases List.mem_singleton.mp member
    exact .notMap other
  | @set name rules single x entries results found all nonempty failed ih =>
    obtain ⟨child, inside, below, member', rfl⟩ :=
      exists_of_mem_checks (by simpa using nonempty) member
    obtain ⟨i, rule, nested, result, _⟩ := exists_failed_rule all inside
    have formed' := Rule.wellFormed_of_getElem? formed.2.2.2 nested
    have checked := ih i rule child.2 nested result formed' member'
    exact checked
  | left _ ih => exact ih formed.1 member
  | right _ ih => exact ih formed.2 member

theorem tells_entry {f : Failure} (asked : f.predicate.isSome = true) (around : Value) :
    (f.entry around).Tells around f := by
  obtain ⟨id, known⟩ := Option.isSome_iff_exists.mp asked
  exact ⟨rfl, by simp [entry, known], rfl, rfl, rfl⟩

end Failure

end Rulebook
