import Rulebook.Message.Layout
import Rulebook.Proofs.Outcome

/-!
Which data has the layout of a message table. `IsLayout` describes it from the outside in, without
the tables that are made of it. Main statement:
* `exists_ofLayout_iff`: exactly the data with the layout gives a table.
-/

namespace Rulebook.Layout

/-! ## The grammar -/

/-- A map whose entries are all of a kind. -/
def IsMapOf (isEntry : Value → Value → Prop) : Value → Prop
  | .map entries => ∀ e ∈ entries, isEntry e.1 e.2
  | _ => False

/-- A section that does not depend on the type of the value. -/
def IsInnerSection (name body : Value) : Prop :=
  name = .str "text" ∧ body.isStr = true ∨
    name = .str "arg" ∧ IsMapOf (fun _ template => template.isStr = true) body

/-- A string, or sections. -/
def IsBody (isSection : Value → Value → Prop) (body : Value) : Prop :=
  body.isStr = true ∨ IsMapOf isSection body

/-- A section of a predicate's template. Types of value have templates without such types inside. -/
def IsSection (name body : Value) : Prop :=
  IsInnerSection name body ∨
    name = .str "value" ∧ IsMapOf (fun _ template => IsBody IsInnerSection template) body

/-- The template of a predicate. -/
def IsTemplate (body : Value) : Prop := IsBody IsSection body

/-- The messages of single fields. -/
def IsRules (rules : Value) : Prop :=
  IsMapOf (fun _ predicates => IsMapOf (fun _ body => IsTemplate body) predicates) rules

/-- A key, taken as a text, and what stands under it. -/
def IsErrorsEntry (isOther : Value → Prop) (key v : Value) : Prop :=
  if key.text.endsWith "?" then IsTemplate v
  else if key.text = "rules" then IsRules v
  else isOther v

/-- The layout of a scope, in which there are no scopes. -/
def IsScope (v : Value) : Prop := IsMapOf (IsErrorsEntry fun _ => False) v

/-- A map with `errors` in it. -/
def IsLocale : Value → Prop
  | .map entries =>
    ∃ errors, Value.lookup (.str "errors") entries = some errors ∧
      IsMapOf (IsErrorsEntry IsScope) errors
  | _ => False

/-- Locales, each with its messages. -/
def IsLayout (data : Value) : Prop := IsMapOf (fun _ v => IsLocale v) data

/-! ## What is read -/

/-- Something is read without an error. -/
def Accepted (result : Assignments) : Prop := ∃ l, result = .ok l

theorem accepted_ok (l : List Assignment) : Accepted (.ok l) := ⟨l, rfl⟩

theorem not_accepted_error (e : LayoutError) : ¬ Accepted (.error e) := by
  rintro ⟨_, read⟩
  cases read

theorem isMapOf_iff {isEntry : Value → Value → Prop} {v : Value} :
    IsMapOf isEntry v ↔ ∃ entries, v = .map entries ∧ ∀ e ∈ entries, isEntry e.1 e.2 := by
  constructor
  · intro isMap
    unfold IsMapOf at isMap
    split at isMap
    · exact ⟨_, rfl, isMap⟩
    · cases isMap
  · rintro ⟨entries, rfl, all⟩
    exact all

theorem not_isMapOf {isEntry : Value → Value → Prop} {v : Value}
    (other : ∀ entries, v = .map entries → False) : ¬ IsMapOf isEntry v := by
  rw [isMapOf_iff]
  rintro ⟨entries, isMap, _⟩
  exact other entries isMap

theorem isStr_iff {v : Value} : v.isStr = true ↔ ∃ s, v = .str s := by
  unfold Value.isStr
  split <;> simp_all

theorem accepted_ofEntries {entry : Value → Value → Assignments} {isEntry : Value → Value → Prop}
    (same : ∀ k v, Accepted (entry k v) ↔ isEntry k v) (entries : List (Value × Value)) :
    Accepted (ofEntries entry entries) ↔ IsMapOf isEntry (.map entries) := by
  change _ ↔ ∀ e ∈ entries, isEntry e.1 e.2
  induction entries with
  | nil => exact iff_of_true (accepted_ok _) nofun
  | cons e rest ih =>
    rw [List.forall_mem_cons, ← same, ← ih]
    constructor
    · rintro ⟨l, read⟩
      obtain ⟨here, first, read⟩ := bind_eq_ok_iff.mp read
      obtain ⟨others, later, _⟩ := bind_eq_ok_iff.mp read
      exact ⟨⟨here, first⟩, others, later⟩
    · rintro ⟨⟨here, first⟩, others, later⟩
      exact ⟨here ++ others, bind_eq_ok_iff.mpr ⟨here, first, bind_eq_ok_iff.mpr ⟨_, later, rfl⟩⟩⟩

theorem accepted_ofArgument (p : Place) (valueType : Option String) (type template : Value) :
    Accepted (ofArgument p valueType type template) ↔ template.isStr = true := by
  unfold ofArgument
  split
  · exact iff_of_true (accepted_ok _) rfl
  · rename_i other
    refine iff_of_false (not_accepted_error _) fun isText => ?_
    obtain ⟨s, text⟩ := isStr_iff.mp isText
    exact other s text

theorem accepted_ofInnerSection (p : Place) (valueType : Option String) (name body : Value) :
    Accepted (ofInnerSection p valueType name body) ↔ IsInnerSection name body := by
  unfold ofInnerSection IsInnerSection
  split
  · exact iff_of_true (accepted_ok _) (.inl ⟨rfl, rfl⟩)
  · rw [accepted_ofEntries (accepted_ofArgument p valueType)]
    simp [Value.isStr]
  · rename_i notText notArgument
    refine iff_of_false (not_accepted_error _) ?_
    rintro (⟨text, isText⟩ | ⟨argument, isMap⟩)
    · obtain ⟨s, body⟩ := isStr_iff.mp isText
      exact notText s text body
    · obtain ⟨entries, body, _⟩ := isMapOf_iff.mp isMap
      exact notArgument entries argument body

theorem accepted_ofBody (p : Place) (valueType : Option String)
    {inSection : Value → Value → Assignments} {isSection : Value → Value → Prop}
    (same : ∀ k v, Accepted (inSection k v) ↔ isSection k v) (body : Value) :
    Accepted (ofBody p valueType inSection body) ↔ IsBody isSection body := by
  unfold ofBody IsBody
  split
  · exact iff_of_true (accepted_ok _) (.inl rfl)
  · rw [accepted_ofEntries same]
    simp [Value.isStr]
  · rename_i notText notMap
    refine iff_of_false (not_accepted_error _) ?_
    rintro (isText | isMap)
    · obtain ⟨s, text⟩ := isStr_iff.mp isText
      exact notText s text
    · exact not_isMapOf notMap isMap

theorem accepted_ofValueType (p : Place) (type body : Value) :
    Accepted (ofValueType p type body) ↔ IsBody IsInnerSection body :=
  accepted_ofBody p _ (accepted_ofInnerSection p _) body

theorem accepted_ofSection (p : Place) (name body : Value) :
    Accepted (ofSection p name body) ↔ IsSection name body := by
  unfold ofSection IsSection
  split
  · rename_i types
    rw [accepted_ofEntries (accepted_ofValueType p)]
    simp [IsInnerSection]
  · rename_i notValue
    rw [accepted_ofInnerSection]
    refine (or_iff_left ?_).symm
    rintro ⟨value, isMap⟩
    obtain ⟨entries, body, _⟩ := isMapOf_iff.mp isMap
    exact notValue entries value body

theorem accepted_ofTemplate (p : Place) (body : Value) :
    Accepted (ofTemplate p body) ↔ IsTemplate body :=
  accepted_ofBody p none (accepted_ofSection p) body

theorem accepted_ofRule (locale : String) (scope : Option String) (rule predicates : Value) :
    Accepted (ofRule locale scope rule predicates) ↔
      IsMapOf (fun _ body => IsTemplate body) predicates := by
  unfold ofRule
  split
  · exact accepted_ofEntries (fun _ => accepted_ofTemplate _) _
  · rename_i notMap
    exact iff_of_false (not_accepted_error _) (not_isMapOf notMap)

theorem accepted_ofErrorsEntry (locale : String) (scope : Option String)
    {other : String → Value → Assignments} {isOther : Value → Prop}
    (same : ∀ name v, Accepted (other name v) ↔ isOther v) (key v : Value) :
    Accepted (ofErrorsEntry locale scope other key v) ↔ IsErrorsEntry isOther key v := by
  unfold ofErrorsEntry IsErrorsEntry
  dsimp only
  split
  · exact accepted_ofTemplate _ v
  · split
    · split
      · exact accepted_ofEntries (accepted_ofRule locale scope) _
      · rename_i notMap
        exact iff_of_false (not_accepted_error _) (not_isMapOf notMap)
    · exact same _ v

theorem accepted_ofScope (locale name : String) (v : Value) :
    Accepted (ofScope locale name v) ↔ IsScope v := by
  unfold ofScope IsScope
  have noOther : ∀ key (v : Value),
      Accepted ((fun key _ => .error (.badKey key locale)) key v) ↔ False :=
    fun _ _ => iff_of_false (not_accepted_error _) id
  split
  · exact accepted_ofEntries (accepted_ofErrorsEntry locale (some name) noOther) _
  · rename_i notMap
    exact iff_of_false (not_accepted_error _) (not_isMapOf notMap)

theorem accepted_ofLocale (locale v : Value) : Accepted (ofLocale locale v) ↔ IsLocale v := by
  cases v with
  | map entries =>
    simp only [ofLocale, IsLocale]
    split
    · rename_i errors found
      rw [accepted_ofEntries (accepted_ofErrorsEntry _ none (accepted_ofScope _))]
      simp [found]
    · rename_i missing
      refine iff_of_false (not_accepted_error _) ?_
      rintro ⟨errors, found, isMap⟩
      obtain ⟨errors, rfl, _⟩ := isMapOf_iff.mp isMap
      exact missing errors found
  | _ => exact iff_of_false (not_accepted_error _) id

theorem accepted_assignments (data : Value) : Accepted (assignments data) ↔ IsLayout data := by
  unfold assignments IsLayout
  split
  · exact accepted_ofEntries accepted_ofLocale _
  · rename_i notMap
    exact iff_of_false (not_accepted_error _) (not_isMapOf notMap)

theorem exists_ofLayout_iff (data : Value) :
    (∃ t, MessageTable.ofLayout data = .ok t) ↔ IsLayout data := by
  rw [← accepted_assignments]
  constructor
  · rintro ⟨t, read⟩
    obtain ⟨l, read, _⟩ := bind_eq_ok_iff.mp read
    exact ⟨l, read⟩
  · rintro ⟨l, read⟩
    exact ⟨.ofList l, bind_eq_ok_iff.mpr ⟨l, read, rfl⟩⟩

end Rulebook.Layout
