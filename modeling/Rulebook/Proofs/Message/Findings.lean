import Mathlib.Data.List.Lex
import Mathlib.Data.List.Pairwise
import Rulebook.Proofs.Message.Layout
import Rulebook.Proofs.OrderedMap

/-!
What is found in a layout of messages. `InLayout` tells what stands at which position of any data:
templates with their keys, and departures from the layout. Positions are compared as the data is
written. Main statements:
* `reads_assignments`: reading goes through everything that is found, in the order of positions;
* `Reads.eq_error_iff`, `Reads.lookup_eq_some_iff`: so the first departure is reported, and the last
  template under a key is kept;
* `layout_read`: tables come from exactly the data with the layout, and hold exactly what it says.
-/

namespace Rulebook.Layout

/-! ## Findings -/

/-- Where a part of a layout stands: which entry of which map it is in, from the outside in. -/
abbrev Position := List Nat

/-- What is found at a position: a template under its key, or a departure from the layout. -/
abbrev Finding := Except LayoutError Assignment

abbrev Findings := Position → Finding → Prop

/-- What is found in an entry of a map. -/
inductive InEntries (entry : Value → Value → Findings) : Value → Findings where
  | entry {entries : List (Value × Value)} {i : Nat} {k v : Value} {pos : Position} {f : Finding}
      (here : entries[i]? = some (k, v)) (inside : entry k v pos f) :
      InEntries entry (.map entries) (i :: pos) f

/-- What is found in a type of argument. The default stands for no particular type. -/
inductive InArgument (p : Place) (valueType : Option String) : Value → Value → Findings where
  | default (s : String) :
      InArgument p valueType (.str "default") (.str s) [] (.ok (p.key valueType none, s))
  | type {type : Value} (s : String) (named : type ≠ .str "default") :
      InArgument p valueType type (.str s) [] (.ok (p.key valueType (some type.text), s))
  | notText {type template : Value} (other : template.isStr = false) :
      InArgument p valueType type template [] (.error (.badArgument p.predicate type.text))

/-- What is found in a section that does not depend on the type of the value. -/
inductive InInnerSection (p : Place) (valueType : Option String) : Value → Value → Findings where
  | text {name : Value} (named : name = .str "text") (s : String) :
      InInnerSection p valueType name (.str s) [] (.ok (p.key valueType none, s))
  | arguments {name types : Value} {pos : Position} {f : Finding} (named : name = .str "arg")
      (inside : InEntries (InArgument p valueType) types pos f) :
      InInnerSection p valueType name types pos f
  | unknown {name body : Value} (notText : ¬ (name = .str "text" ∧ body.isStr = true))
      (notArguments : ¬ (name = .str "arg" ∧ body.isMap = true)) :
      InInnerSection p valueType name body [] (.error (.badSection name.text p.predicate))

/-- What is found in a template: itself, or what is in its sections. -/
inductive InBody (p : Place) (valueType : Option String) (inSection : Value → Value → Findings) :
    Value → Findings where
  | text (s : String) : InBody p valueType inSection (.str s) [] (.ok (p.key valueType none, s))
  | sections {body : Value} {pos : Position} {f : Finding}
      (inside : InEntries inSection body pos f) : InBody p valueType inSection body pos f
  | other {body : Value} (notText : body.isStr = false) (notMap : body.isMap = false) :
      InBody p valueType inSection body [] (.error (.badTemplate p.predicate))

/-- What is found in the template for one type of value. -/
def InValueType (p : Place) (type body : Value) : Findings :=
  InBody p (some type.text) (InInnerSection p (some type.text)) body

/-- What is found in a section of a predicate's template. -/
inductive InSection (p : Place) : Value → Value → Findings where
  | valueTypes {types : Value} {pos : Position} {f : Finding}
      (inside : InEntries (InValueType p) types pos f) : InSection p (.str "value") types pos f
  | inner {name body : Value} {pos : Position} {f : Finding}
      (notTypes : ¬ (name = .str "value" ∧ body.isMap = true))
      (inside : InInnerSection p none name body pos f) : InSection p name body pos f

/-- What is found in the template of a predicate. -/
def InTemplate (p : Place) (body : Value) : Findings := InBody p none (InSection p) body

/-- What is found in the messages of a field. -/
inductive InRule (locale : String) (scope : Option String) : Value → Value → Findings where
  | predicates {rule predicates : Value} {pos : Position} {f : Finding}
      (inside : InEntries
        (fun k v => InTemplate ⟨locale, scope, some rule.text, k.text⟩ v) predicates pos f) :
      InRule locale scope rule predicates pos f
  | notMap {rule predicates : Value} (other : predicates.isMap = false) :
      InRule locale scope rule predicates [] (.error (.badRule rule.text))

/-- What is found under a key, taken as a text. -/
inductive InErrorsEntry (locale : String) (scope : Option String)
    (inOther : String → Value → Findings) : Value → Value → Findings where
  | predicate {key v : Value} {pos : Position} {f : Finding}
      (isPredicate : key.text.endsWith "?" = true)
      (inside : InTemplate ⟨locale, scope, none, key.text⟩ v pos f) :
      InErrorsEntry locale scope inOther key v pos f
  | rules {key v : Value} {pos : Position} {f : Finding} (isRules : key.text = "rules")
      (inside : InEntries (InRule locale scope) v pos f) :
      InErrorsEntry locale scope inOther key v pos f
  | badRules {key v : Value} (isRules : key.text = "rules") (other : v.isMap = false) :
      InErrorsEntry locale scope inOther key v [] (.error (.badRules locale))
  | other {key v : Value} {pos : Position} {f : Finding}
      (notPredicate : key.text.endsWith "?" = false) (notRules : key.text ≠ "rules")
      (inside : inOther key.text v pos f) : InErrorsEntry locale scope inOther key v pos f

/-- A key has no meaning inside a scope. -/
inductive NoScope (locale : String) : String → Value → Findings where
  | badKey (key : String) (v : Value) : NoScope locale key v [] (.error (.badKey key locale))

/-- What is found in a scope. -/
inductive InScope (locale : String) : String → Value → Findings where
  | entries {name : String} {v : Value} {pos : Position} {f : Finding}
      (inside : InEntries (InErrorsEntry locale (some name) (NoScope locale)) v pos f) :
      InScope locale name v pos f
  | notMap {name : String} {v : Value} (other : v.isMap = false) :
      InScope locale name v [] (.error (.badKey name locale))

/-- What is found in a locale. Only what stands under `errors` belongs to the layout. -/
inductive InLocale : Value → Value → Findings where
  | errors {locale errors : Value} {entries : List (Value × Value)} {pos : Position} {f : Finding}
      (found : Value.lookup (.str "errors") entries = some errors)
      (inside : InEntries (InErrorsEntry locale.text none (InScope locale.text)) errors pos f) :
      InLocale locale (.map entries) pos f
  | noErrors {locale v : Value}
      (missing : ∀ entries errors, v = .map entries →
        Value.lookup (.str "errors") entries = some errors → errors.isMap = false) :
      InLocale locale v [] (.error (.noErrors locale.text))

/-- What is found in a layout. -/
inductive InLayout : Value → Findings where
  | locales {data : Value} {pos : Position} {f : Finding} (inside : InEntries InLocale data pos f) :
      InLayout data pos f
  | notMap {data : Value} (other : data.isMap = false) : InLayout data [] (.error .noLocales)

/-! ## Reading in order -/

/-- Something is read by going through all that is found, in the order of positions: the templates
are collected, and the first departure ends the reading. -/
def Reads (result : Assignments) (finds : Findings) : Prop :=
  ∃ found : List (Position × Finding), found.Pairwise (fun a b => a.1 < b.1) ∧
    (∀ pos f, (pos, f) ∈ found ↔ finds pos f) ∧ result = found.mapM (·.2)

theorem Reads.congr {result : Assignments} {finds finds' : Findings} (reads : Reads result finds)
    (same : ∀ pos f, finds pos f ↔ finds' pos f) : Reads result finds' := by
  obtain ⟨found, rising, all, read⟩ := reads
  exact ⟨found, rising, fun pos f => (all pos f).trans (same pos f), read⟩

theorem reads_ok {a : Assignment} {finds : Findings}
    (only : ∀ pos f, finds pos f ↔ pos = [] ∧ f = .ok a) : Reads (.ok [a]) finds :=
  ⟨[([], .ok a)], List.pairwise_singleton .., fun pos f => by simp [only], rfl⟩

theorem reads_error {e : LayoutError} {finds : Findings}
    (only : ∀ pos f, finds pos f ↔ pos = [] ∧ f = .error e) : Reads (.error e) finds :=
  ⟨[([], .error e)], List.pairwise_singleton .., fun pos f => by simp [only], rfl⟩

/-- The entries from some number on, so that the induction can go from entry to entry. -/
theorem reads_ofEntries_from {entry : Value → Value → Assignments}
    {inEntry : Value → Value → Findings} (same : ∀ k v, Reads (entry k v) (inEntry k v))
    (entries : List (Value × Value)) (first : Nat) :
    Reads (ofEntries entry entries) fun pos f =>
      ∃ i k v inner, pos = (first + i) :: inner ∧ entries[i]? = some (k, v) ∧
        inEntry k v inner f := by
  induction entries generalizing first with
  | nil => exact ⟨[], .nil, fun pos f => by simp, rfl⟩
  | cons e rest ih =>
    obtain ⟨k, v⟩ := e
    obtain ⟨here, risingHere, allHere, readHere⟩ := same k v
    obtain ⟨later, risingLater, allLater, readLater⟩ := ih (first + 1)
    refine ⟨here.map (fun x => (first :: x.1, x.2)) ++ later, ?_, fun pos f => ?_, ?_⟩
    · refine List.pairwise_append.mpr ⟨?_, risingLater, ?_⟩
      · refine List.pairwise_map.mpr (risingHere.imp fun before => ?_)
        exact List.cons_lt_cons_iff.mpr (.inr ⟨rfl, before⟩)
      · intro a inHere b inLater
        obtain ⟨x, _, rfl⟩ := List.mem_map.mp inHere
        obtain ⟨i, k, v, inner, position, _⟩ := (allLater b.1 b.2).mp inLater
        rw [position]
        exact List.cons_lt_cons_iff.mpr (.inl (by omega))
    · rw [List.mem_append, allLater]
      constructor
      · rintro (inHere | ⟨i, k', v', inner, rfl, inRest, inside⟩)
        · obtain ⟨⟨inner, f⟩, inside, same⟩ := List.mem_map.mp inHere
          cases same
          exact ⟨0, k, v, inner, rfl, rfl, (allHere inner f).mp inside⟩
        · exact ⟨i + 1, k', v', inner, by rw [Nat.add_right_comm, Nat.add_assoc], inRest, inside⟩
      · rintro ⟨i, k', v', inner, rfl, at', inside⟩
        cases i with
        | zero =>
          cases at'
          exact .inl (List.mem_map.mpr ⟨(inner, f), (allHere inner f).mpr inside, rfl⟩)
        | succ i =>
          exact .inr ⟨i, k', v', inner, by rw [Nat.add_right_comm, Nat.add_assoc], at', inside⟩
    · rw [ofEntries, readHere, readLater, List.mapM_append, List.mapM_map]
      rfl

theorem reads_ofEntries {entry : Value → Value → Assignments}
    {inEntry : Value → Value → Findings} (same : ∀ k v, Reads (entry k v) (inEntry k v))
    (entries : List (Value × Value)) :
    Reads (ofEntries entry entries) (InEntries inEntry (.map entries)) := by
  refine (reads_ofEntries_from same entries 0).congr fun pos f => ?_
  constructor
  · rintro ⟨i, k, v, inner, rfl, here, inside⟩
    rw [Nat.zero_add]
    exact .entry here inside
  · rintro ⟨here, inside⟩
    exact ⟨_, _, _, _, by rw [Nat.zero_add], here, inside⟩

theorem isMap_eq_false {v : Value} (other : ∀ entries, v = .map entries → False) :
    v.isMap = false := by
  unfold Value.isMap
  split
  · exact absurd rfl (other _)
  · rfl

theorem isStr_eq_false {v : Value} (other : ∀ s, v = .str s → False) : v.isStr = false := by
  unfold Value.isStr
  split
  · exact absurd rfl (other _)
  · rfl

theorem reads_ofArgument (p : Place) (valueType : Option String) (type template : Value) :
    Reads (ofArgument p valueType type template) (InArgument p valueType type template) := by
  unfold ofArgument
  split
  · rename_i s
    split
    · refine reads_ok fun pos f => ⟨fun inside => ?_, ?_⟩
      · cases inside with
        | default => exact ⟨rfl, rfl⟩
        | type _ named => exact absurd rfl named
        | notText other => cases other
      · rintro ⟨rfl, rfl⟩
        exact .default s
    · rename_i named
      refine reads_ok fun pos f => ⟨fun inside => ?_, ?_⟩
      · cases inside with
        | default => exact absurd rfl named
        | type => exact ⟨rfl, rfl⟩
        | notText other => cases other
      · rintro ⟨rfl, rfl⟩
        exact .type s named
  · rename_i notText
    refine reads_error fun pos f => ⟨fun inside => ?_, ?_⟩
    · cases inside with
      | default => exact absurd rfl (notText _)
      | type => exact absurd rfl (notText _)
      | notText => exact ⟨rfl, rfl⟩
    · rintro ⟨rfl, rfl⟩
      exact .notText (isStr_eq_false notText)

theorem reads_ofInnerSection (p : Place) (valueType : Option String) (name body : Value) :
    Reads (ofInnerSection p valueType name body) (InInnerSection p valueType name body) := by
  unfold ofInnerSection
  split
  · rename_i s
    refine reads_ok fun pos f => ⟨fun inside => ?_, ?_⟩
    · cases inside with
      | text => exact ⟨rfl, rfl⟩
      | arguments _ inside => cases inside
      | unknown notText => exact absurd ⟨rfl, rfl⟩ notText
    · rintro ⟨rfl, rfl⟩
      exact .text rfl s
  · refine (reads_ofEntries (reads_ofArgument p valueType) _).congr fun pos f =>
      ⟨.arguments rfl, fun inside => ?_⟩
    cases inside with
    | arguments _ inside => exact inside
    | unknown _ notArguments => exact absurd ⟨rfl, rfl⟩ notArguments
  · rename_i notText notArguments
    refine reads_error fun pos f => ⟨fun inside => ?_, ?_⟩
    · cases inside with
      | text named => exact absurd rfl (notText _ named)
      | arguments named inside =>
        cases inside
        exact absurd rfl (notArguments _ named)
      | unknown => exact ⟨rfl, rfl⟩
    · rintro ⟨rfl, rfl⟩
      refine .unknown ?_ ?_
      · rintro ⟨text, isText⟩
        obtain ⟨s, body⟩ := isStr_iff.mp isText
        exact notText s text body
      · rintro ⟨arguments, isMap⟩
        rw [isMap_eq_false fun entries => notArguments entries arguments] at isMap
        cases isMap

theorem reads_ofBody (p : Place) (valueType : Option String)
    {inSection : Value → Value → Assignments} {finds : Value → Value → Findings}
    (same : ∀ k v, Reads (inSection k v) (finds k v)) (body : Value) :
    Reads (ofBody p valueType inSection body) (InBody p valueType finds body) := by
  unfold ofBody
  split
  · rename_i s
    refine reads_ok fun pos f => ⟨fun inside => ?_, ?_⟩
    · cases inside with
      | text => exact ⟨rfl, rfl⟩
      | sections inside => cases inside
      | other notText => cases notText
    · rintro ⟨rfl, rfl⟩
      exact .text s
  · refine (reads_ofEntries same _).congr fun pos f => ⟨.sections, fun inside => ?_⟩
    cases inside with
    | sections inside => exact inside
    | other _ notMap => cases notMap
  · rename_i notText notMap
    refine reads_error fun pos f => ⟨fun inside => ?_, ?_⟩
    · cases inside with
      | text => exact absurd rfl (notText _)
      | sections inside =>
        cases inside
        exact absurd rfl (notMap _)
      | other => exact ⟨rfl, rfl⟩
    · rintro ⟨rfl, rfl⟩
      exact .other (isStr_eq_false notText) (isMap_eq_false notMap)

theorem reads_ofValueType (p : Place) (type body : Value) :
    Reads (ofValueType p type body) (InValueType p type body) :=
  reads_ofBody p _ (reads_ofInnerSection p _) body

theorem reads_ofSection (p : Place) (name body : Value) :
    Reads (ofSection p name body) (InSection p name body) := by
  unfold ofSection
  split
  · refine (reads_ofEntries (reads_ofValueType p) _).congr fun pos f => ⟨.valueTypes, ?_⟩
    intro inside
    cases inside with
    | valueTypes inside => exact inside
    | inner notTypes => exact absurd ⟨rfl, rfl⟩ notTypes
  · rename_i notTypes
    refine (reads_ofInnerSection p none name body).congr fun pos f => ⟨.inner ?_, fun inside => ?_⟩
    · rintro ⟨value, isMap⟩
      rw [isMap_eq_false fun entries => notTypes entries value] at isMap
      cases isMap
    · cases inside with
      | valueTypes inside =>
        cases inside
        exact absurd rfl (notTypes _ rfl)
      | inner _ inside => exact inside

theorem reads_ofTemplate (p : Place) (body : Value) :
    Reads (ofTemplate p body) (InTemplate p body) :=
  reads_ofBody p none (reads_ofSection p) body

theorem reads_ofRule (locale : String) (scope : Option String) (rule predicates : Value) :
    Reads (ofRule locale scope rule predicates) (InRule locale scope rule predicates) := by
  unfold ofRule
  split
  · refine (reads_ofEntries (fun _ => reads_ofTemplate _) _).congr fun pos f =>
      ⟨.predicates, fun inside => ?_⟩
    cases inside with
    | predicates inside => exact inside
    | notMap other => cases other
  · rename_i notMap
    refine reads_error fun pos f => ⟨fun inside => ?_, ?_⟩
    · cases inside with
      | predicates inside =>
        cases inside
        exact absurd rfl (notMap _)
      | notMap => exact ⟨rfl, rfl⟩
    · rintro ⟨rfl, rfl⟩
      exact .notMap (isMap_eq_false notMap)

theorem reads_ofErrorsEntry (locale : String) (scope : Option String)
    {other : String → Value → Assignments} {finds : String → Value → Findings}
    (same : ∀ name v, Reads (other name v) (finds name v)) (key v : Value) :
    Reads (ofErrorsEntry locale scope other key v) (InErrorsEntry locale scope finds key v) := by
  unfold ofErrorsEntry
  dsimp only
  split
  · rename_i isPredicate
    have notRules : key.text ≠ "rules" := by
      intro isRules
      rw [isRules] at isPredicate
      exact absurd isPredicate (by decide +kernel)
    refine (reads_ofTemplate _ v).congr fun pos f => ⟨.predicate isPredicate, fun inside => ?_⟩
    cases inside with
    | predicate _ inside => exact inside
    | rules isRules => exact absurd isRules notRules
    | badRules isRules => exact absurd isRules notRules
    | other notPredicate => exact absurd isPredicate (by rw [notPredicate]; exact nofun)
  · rename_i notPredicate
    split
    · rename_i isRules
      split
      · refine (reads_ofEntries (reads_ofRule locale scope) _).congr fun pos f =>
          ⟨.rules isRules, fun inside => ?_⟩
        cases inside with
        | predicate isPredicate => exact absurd isPredicate notPredicate
        | rules _ inside => exact inside
        | badRules _ other => cases other
        | other _ notRules => exact absurd isRules notRules
      · rename_i notMap
        refine reads_error fun pos f => ⟨fun inside => ?_, ?_⟩
        · cases inside with
          | predicate isPredicate => exact absurd isPredicate notPredicate
          | rules _ inside =>
            cases inside
            exact absurd rfl (notMap _)
          | badRules => exact ⟨rfl, rfl⟩
          | other _ notRules => exact absurd isRules notRules
        · rintro ⟨rfl, rfl⟩
          exact .badRules isRules (isMap_eq_false notMap)
    · rename_i notRules
      refine (same key.text v).congr fun pos f =>
        ⟨.other (Bool.eq_false_iff.mpr notPredicate) notRules, fun inside => ?_⟩
      cases inside with
      | predicate isPredicate => exact absurd isPredicate notPredicate
      | rules isRules => exact absurd isRules notRules
      | badRules isRules => exact absurd isRules notRules
      | other _ _ inside => exact inside

theorem reads_badKey (locale key : String) (v : Value) :
    Reads (.error (.badKey key locale)) (NoScope locale key v) := by
  refine reads_error fun pos f => ⟨fun inside => ?_, ?_⟩
  · cases inside
    exact ⟨rfl, rfl⟩
  · rintro ⟨rfl, rfl⟩
    exact .badKey key v

theorem reads_ofScope (locale name : String) (v : Value) :
    Reads (ofScope locale name v) (InScope locale name v) := by
  unfold ofScope
  split
  · refine (reads_ofEntries
      (reads_ofErrorsEntry locale (some name) (reads_badKey locale)) _).congr fun pos f =>
        ⟨.entries, fun inside => ?_⟩
    cases inside with
    | entries inside => exact inside
    | notMap other => cases other
  · rename_i notMap
    refine reads_error fun pos f => ⟨fun inside => ?_, ?_⟩
    · cases inside with
      | entries inside =>
        cases inside
        exact absurd rfl (notMap _)
      | notMap => exact ⟨rfl, rfl⟩
    · rintro ⟨rfl, rfl⟩
      exact .notMap (isMap_eq_false notMap)

theorem reads_ofLocale (locale v : Value) : Reads (ofLocale locale v) (InLocale locale v) := by
  unfold ofLocale
  split
  · rename_i entries
    split
    · rename_i errors found
      refine (reads_ofEntries
        (reads_ofErrorsEntry _ none (reads_ofScope locale.text)) errors).congr fun pos f =>
          ⟨.errors found, fun inside => ?_⟩
      cases inside with
      | errors found' inside =>
        rw [found] at found'
        cases found'
        exact inside
      | noErrors missing => cases missing entries _ rfl found
    · rename_i missing
      refine reads_error fun pos f => ⟨fun inside => ?_, ?_⟩
      · cases inside with
        | errors found inside =>
          cases inside
          exact absurd found (missing _)
        | noErrors => exact ⟨rfl, rfl⟩
      · rintro ⟨rfl, rfl⟩
        refine .noErrors fun entries' errors same found => ?_
        cases same
        exact isMap_eq_false fun inner isMap => missing inner (isMap ▸ found)
  · rename_i notMap
    refine reads_error fun pos f => ⟨fun inside => ?_, ?_⟩
    · cases inside with
      | errors => exact absurd rfl (notMap _)
      | noErrors => exact ⟨rfl, rfl⟩
    · rintro ⟨rfl, rfl⟩
      exact .noErrors fun entries _ isMap => absurd isMap (notMap entries)

theorem reads_assignments (data : Value) : Reads (assignments data) (InLayout data) := by
  unfold assignments
  split
  · refine (reads_ofEntries reads_ofLocale _).congr fun pos f => ⟨.locales, fun inside => ?_⟩
    cases inside with
    | locales inside => exact inside
    | notMap other => cases other
  · rename_i notMap
    refine reads_error fun pos f => ⟨fun inside => ?_, ?_⟩
    · cases inside with
      | locales inside =>
        cases inside
        exact absurd rfl (notMap _)
      | notMap => exact ⟨rfl, rfl⟩
    · rintro ⟨rfl, rfl⟩
      exact .notMap (isMap_eq_false notMap)

/-! ## First departures and last templates -/

/-- In a list that is ordered by a relation, a search finds what comes before all that it could find
as well. -/
theorem findSome?_eq_some_iff_first {α β : Type} {before : α → α → Prop} {l : List α}
    (ordered : l.Pairwise before) (asymm : ∀ a b, before a b → ¬ before b a) {g : α → Option β}
    {b : β} : l.findSome? g = some b ↔
      ∃ x ∈ l, g x = some b ∧ ∀ y ∈ l, (g y).isSome = true → y = x ∨ before x y := by
  have first : ∀ {b}, l.findSome? g = some b →
      ∃ x ∈ l, g x = some b ∧ ∀ y ∈ l, (g y).isSome = true → y = x ∨ before x y := by
    intro b found
    obtain ⟨earlier, x, later, rfl, hit, missed⟩ := List.findSome?_eq_some_iff.mp found
    refine ⟨x, by simp, hit, fun y member answered => ?_⟩
    rcases List.mem_append.mp member with inEarlier | member
    · rw [missed y inEarlier] at answered
      cases answered
    · rcases List.mem_cons.mp member with same | inLater
      · exact .inl same
      · have rest := (List.pairwise_append.mp ordered).2.1
        exact .inr ((List.pairwise_cons.mp rest).1 y inLater)
  refine ⟨first, fun ⟨x, member, hit, least⟩ => ?_⟩
  have some : (l.findSome? g).isSome = true :=
    List.findSome?_isSome_iff.mpr ⟨x, member, by rw [hit]; rfl⟩
  obtain ⟨b', found⟩ := Option.isSome_iff_exists.mp some
  obtain ⟨z, member', hit', least'⟩ := first found
  have same : z = x := by
    rcases least z member' (by rw [hit']; rfl) with same | after
    · exact same
    · rcases least' x member (by rw [hit]; rfl) with same | after'
      · exact same.symm
      · exact absurd after' (asymm x z after)
  rw [found, ← hit', same, hit]

/-- The template that a finding puts under a key. -/
def template? (key : MessageKey) : Finding → Option String
  | .ok (k, s) => if k = key then some s else none
  | .error _ => none

theorem template?_eq_some_iff {key : MessageKey} {f : Finding} {s : String} :
    template? key f = some s ↔ f = .ok (key, s) := by
  cases f with
  | error e => simp [template?]
  | ok a =>
    obtain ⟨k, s'⟩ := a
    by_cases same : k = key <;> simp [template?, same]

theorem refusal?_mapM (found : List (Position × Finding)) :
    refusal? (found.mapM (·.2)) = found.findSome? fun x => refusal? x.2 := by
  induction found with
  | nil => rfl
  | cons x rest ih =>
    rw [List.mapM_cons, refusal?_bind fun _ _ => refusal?_bind_pure, ih, List.findSome?_cons]
    cases refusal? x.2 <;> rfl

theorem lookup_of_mapM {found : List (Position × Finding)} {l : List Assignment}
    (read : found.mapM (·.2) = .ok l) (key : MessageKey) :
    l.reverse.lookup key = found.reverse.findSome? fun x => template? key x.2 := by
  induction found generalizing l with
  | nil =>
    cases read
    rfl
  | cons x rest ih =>
    rw [List.mapM_cons] at read
    obtain ⟨⟨k, s⟩, here, read⟩ := bind_eq_ok_iff.mp read
    obtain ⟨others, later, same⟩ := bind_eq_ok_iff.mp read
    cases same
    have last : List.lookup key [(k, s)] = template? key x.2 := by
      rw [here, List.lookup_cons, template?]
      by_cases same : k = key
      · simp [same]
      · rw [if_neg same, beq_false_of_ne (Ne.symm same)]
        rfl
    rw [List.reverse_cons, List.reverse_cons, List.lookup_append, List.findSome?_append, ih later,
      last, List.findSome?_singleton]

section

variable {result : Assignments} {finds : Findings}

/-- There is one finding at a position at most. -/
theorem unique_of_rising {found : List (Position × Finding)}
    (rising : found.Pairwise fun a b => a.1 < b.1) {pos : Position} {f f' : Finding}
    (member : (pos, f) ∈ found) (member' : (pos, f') ∈ found) : f = f' := by
  have different : found.Pairwise fun a b => a.1 ≠ b.1 := rising.imp ne_of_lt
  have : Std.Symm fun a b : Position × Finding => a.1 ≠ b.1 := ⟨fun _ _ => Ne.symm⟩
  by_contra other
  exact different.forall member member' (by simpa using other) rfl

theorem Reads.eq_error_iff (reads : Reads result finds) (e : LayoutError) :
    result = .error e ↔
      ∃ pos, finds pos (.error e) ∧ ∀ pos' e', finds pos' (.error e') → pos ≤ pos' := by
  obtain ⟨found, rising, all, rfl⟩ := reads
  simp only [← all]
  rw [← refusal?_eq_some_iff, refusal?_mapM,
    findSome?_eq_some_iff_first rising fun _ _ => lt_asymm]
  constructor
  · rintro ⟨⟨pos, f⟩, member, isError, first⟩
    cases refusal?_eq_some_iff.mp isError
    refine ⟨pos, member, fun pos' e' there => ?_⟩
    rcases first _ there rfl with same | after
    · exact (congrArg Prod.fst same).ge
    · exact le_of_lt after
  · rintro ⟨pos, member, first⟩
    refine ⟨(pos, .error e), member, rfl, fun ⟨pos', f⟩ there isError => ?_⟩
    obtain ⟨e', isError⟩ := Option.isSome_iff_exists.mp isError
    cases refusal?_eq_some_iff.mp isError
    rcases (first pos' e' there).eq_or_lt with same | after
    · subst same
      exact .inl (congrArg _ (unique_of_rising rising there member))
    · exact .inr after

theorem Reads.lookup_eq_some_iff {l : List Assignment} (reads : Reads (.ok l) finds)
    (key : MessageKey) (s : String) :
    l.reverse.lookup key = some s ↔
      ∃ pos, finds pos (.ok (key, s)) ∧ ∀ pos' s', finds pos' (.ok (key, s')) → pos' ≤ pos := by
  obtain ⟨found, rising, all, read⟩ := reads
  have falling : found.reverse.Pairwise fun a b => b.1 < a.1 := List.pairwise_reverse.mpr rising
  simp only [← all]
  rw [lookup_of_mapM read.symm, findSome?_eq_some_iff_first falling fun _ _ => lt_asymm]
  constructor
  · rintro ⟨⟨pos, f⟩, member, isTemplate, last⟩
    cases template?_eq_some_iff.mp isTemplate
    refine ⟨pos, List.mem_reverse.mp member, fun pos' s' there => ?_⟩
    rcases last _ (List.mem_reverse.mpr there) (by simp [template?]) with same | after
    · exact (congrArg Prod.fst same).le
    · exact le_of_lt after
  · rintro ⟨pos, member, last⟩
    refine ⟨(pos, .ok (key, s)), List.mem_reverse.mpr member, by simp [template?],
      fun ⟨pos', f⟩ there isTemplate => ?_⟩
    obtain ⟨s', isTemplate⟩ := Option.isSome_iff_exists.mp isTemplate
    cases template?_eq_some_iff.mp isTemplate
    have there := List.mem_reverse.mp there
    rcases (last pos' s' there).eq_or_lt with same | after
    · subst same
      exact .inl (congrArg _ (unique_of_rising rising there member))
    · exact .inr after

end

/-- A departure from the layout before which there is no other. -/
def DepartsFirst (data : Value) (e : LayoutError) : Prop :=
  ∃ pos, InLayout data pos (.error e) ∧ ∀ pos' e', InLayout data pos' (.error e') → pos ≤ pos'

/-- A template under a key after which there is no other under that key. -/
def WritesLast (data : Value) (key : MessageKey) (template : String) : Prop :=
  ∃ pos, InLayout data pos (.ok (key, template)) ∧
    ∀ pos' template', InLayout data pos' (.ok (key, template')) → pos' ≤ pos

/-- **Layouts are read exactly.** A table comes from exactly the data that has the layout. All other
data is refused for its first departure from it. The table holds under every key, whatever that is
made of, the template that the layout puts there last, and nothing under a key of no template. -/
theorem layout_read (data : Value) :
    ((∃ t, MessageTable.ofLayout data = .ok t) ↔ IsLayout data) ∧
    (∀ e, MessageTable.ofLayout data = .error e ↔ DepartsFirst data e) ∧
    ∀ t, MessageTable.ofLayout data = .ok t →
      ∀ key template, t.get? key = some template ↔ WritesLast data key template := by
  have reads := reads_assignments data
  refine ⟨exists_ofLayout_iff data, fun e => ?_, fun t read key template => ?_⟩
  · have refused : MessageTable.ofLayout data = .error e ↔ assignments data = .error e := by
      rw [← refusal?_eq_some_iff, MessageTable.ofLayout, refusal?_bind_pure,
        refusal?_eq_some_iff]
    rw [refused, reads.eq_error_iff]
    rfl
  · obtain ⟨l, assigned, same⟩ := bind_eq_ok_iff.mp read
    cases same
    rw [assigned] at reads
    have found : (MessageTable.ofList l).get? key = l.reverse.lookup key :=
      OrderedMap.get?_ofList l key
    rw [found, reads.lookup_eq_some_iff]
    rfl

/-- A layout with two spellings of one key, with sections of other keys between and after them, and
with names that are no strings. -/
def severalSpellings : Value :=
  .map [(.bool true, .map [(.str "errors", .map
    [(.str "size?", .map
        [(.str "arg", .map [(.str "default", .str "is long"), (.int 1, .str "is not one long")]),
          (.str "text", .str "is short"),
          (.str "value", .map [(.str "string", .map [(.str "text", .str "has letters")])])]),
      (.null, .map [(.str "size?", .str "has a size")])])])]

theorem layout_read_severalSpellings :
    ∃ t, MessageTable.ofLayout severalSpellings = .ok t ∧ IsLayout severalSpellings ∧
      WritesLast severalSpellings ⟨"True", none, none, "size?", none, none⟩ "is short" ∧
      WritesLast severalSpellings ⟨"True", some "None", none, "size?", none, none⟩ "has a size" := by
  have held : (MessageTable.ofLayout severalSpellings).toOption.map (fun t =>
      [t.get? ⟨"True", none, none, "size?", none, none⟩,
        t.get? ⟨"True", some "None", none, "size?", none, none⟩]) =
      some [some "is short", some "has a size"] := by decide +kernel
  cases read : MessageTable.ofLayout severalSpellings with
  | error e =>
    rw [read] at held
    cases held
  | ok t =>
    rw [read] at held
    simp only [Except.toOption, Option.map_some, Option.some.injEq, List.cons.injEq, and_true]
      at held
    obtain ⟨accepted, _, templates⟩ := layout_read severalSpellings
    exact ⟨t, rfl, accepted.mp ⟨t, read⟩, (templates t read _ _).mp held.1,
      (templates t read _ _).mp held.2⟩

end Rulebook.Layout
