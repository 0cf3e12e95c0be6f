import Rulebook.Check.Format
import Rulebook.Proofs.Report.Account

/-!
Reports as plain data. Main statements:
* `isData_plain`, `isData_toData`: whatever values there are, their plain form is plain data, and so
  is the entry of a failed check;
* `exists_write`: plain data can be written as JSON.
-/

namespace Rulebook

namespace Value

/-- Plain data: null, truth values, numbers, strings, lists of plain data, and maps of plain data
whose keys are strings. -/
inductive IsData : Value → Prop where
  | null : IsData .null
  | bool (b : Bool) : IsData (.bool b)
  | int (n : Int) : IsData (.int n)
  | float (x : Double) : IsData (.atom (.float x))
  | str (s : String) : IsData (.str s)
  | list {items : List Value} (all : ∀ v ∈ items, IsData v) : IsData (.list items)
  | map {entries : List (Value × Value)} (keys : ∀ e ∈ entries, ∃ s, e.1 = .str s)
      (all : ∀ e ∈ entries, IsData e.2) : IsData (.map entries)

/-- A name is a string, a number or null. -/
theorem isData_of_isName {v : Value} (named : v.isName true = true) : v.IsData := by
  rcases eq_of_isName named with rfl | ⟨s, rfl⟩ | ⟨n, rfl⟩
  · exact .null
  · exact .str s
  · exact .int n

/-- The entries of a map that is plain data. -/
def AreEntries (entries : List (Value × Value)) : Prop :=
  ∀ e ∈ entries, (∃ s, e.1 = .str s) ∧ e.2.IsData

theorem AreEntries.isData {entries : List (Value × Value)} (h : AreEntries entries) :
    (Value.map entries).IsData :=
  .map (fun e member => (h e member).1) fun e member => (h e member).2

theorem areEntries_nil : AreEntries [] := nofun

theorem AreEntries.cons {s : String} {v : Value} {rest : List (Value × Value)} (data : v.IsData)
    (others : AreEntries rest) : AreEntries ((.str s, v) :: rest) :=
  List.forall_mem_cons.mpr ⟨⟨⟨s, rfl⟩, data⟩, others⟩

theorem AreEntries.putText {entries : List (Value × Value)} (h : AreEntries entries) (s : String)
    {v : Value} (data : v.IsData) : AreEntries (putText s v entries) := by
  intro e member
  rcases mem_put_str (fun e known => (h e known).1) member with rfl | known
  · exact ⟨⟨s, rfl⟩, data⟩
  · exact h e known

mutual

theorem isData_plain (v : Value) : v.plain.IsData := by
  match v with
  | .atom a =>
    cases a with
    | null => exact .null
    | bool b => exact .bool b
    | int n => exact .int n
    | float x => exact .float x
    | _ => exact .str _
  | .seq _ items => exact .list (isData_plainAll items)
  | .set _ _ => exact .str _
  | .map entries => exact (areEntries_plainEntries entries areEntries_nil).isData

theorem isData_plainAll (items : List Value) : ∀ v ∈ plainAll items, v.IsData := by
  match items with
  | [] => exact fun _ member => by cases member
  | v :: rest => exact List.forall_mem_cons.mpr ⟨isData_plain v, isData_plainAll rest⟩

theorem areEntries_plainEntries (entries : List (Value × Value)) {found : List (Value × Value)}
    (h : AreEntries found) : AreEntries (plainEntries entries found) := by
  match entries with
  | [] => exact h
  | (k, v) :: rest => exact areEntries_plainEntries rest (h.putText k.text (isData_plain v))

end

end Value

/-- Only the name of an entry is shown as it is. -/
theorem Entry.isData_toData {e : Entry} (named : e.name.IsData) : e.toData.IsData := by
  have arguments : Value.AreEntries
      (e.arguments.foldl (fun found a => Value.putText a.1 a.2.plain found) []) := by
    refine List.foldlRecOn e.arguments _ Value.areEntries_nil fun found h a _ => ?_
    exact h.putText a.1 (Value.isData_plain a.2)
  exact Value.AreEntries.isData (.cons named (.cons (.str _) (.cons arguments.isData
    (.cons e.value.isData_plain (.cons (.str _) Value.areEntries_nil)))))

namespace Report

variable {α : Type} {leaf : α → Value}

mutual

theorem isData_toData (r : Report α) (all : ∀ l ∈ r.leaves, (leaf l.2).IsData) :
    (r.toData leaf).IsData := by
  match r with
  | .leaf a => exact all _ (List.mem_singleton_self _)
  | .nested fields => exact (areEntries_dataOfFields fields all Value.areEntries_nil).isData

theorem isData_dataOfItems (items : List (Report α))
    (all : ∀ l ∈ leavesOfItems items, (leaf l.2).IsData) :
    ∀ v ∈ dataOfItems leaf items, v.IsData := by
  match items with
  | [] => exact fun _ member => by cases member
  | item :: rest =>
    obtain ⟨first, others⟩ := List.forall_mem_append.mp all
    exact List.forall_mem_cons.mpr ⟨isData_toData item first, isData_dataOfItems rest others⟩

theorem areEntries_dataOfFields (fields : Fields α)
    (all : ∀ l ∈ leavesOfFields fields, (leaf l.2).IsData) {found : List (Value × Value)}
    (h : Value.AreEntries found) : Value.AreEntries (dataOfFields leaf fields found) := by
  match fields with
  | [] => exact h
  | (key, items) :: rest =>
    obtain ⟨first, others⟩ := List.forall_mem_append.mp all
    have inner := isData_dataOfItems items fun l member =>
      first (key :: l.1, l.2) (List.mem_map_of_mem member)
    exact areEntries_dataOfFields rest others (h.putText key.text (.list inner))

end

end Report

theorem Fields.isData_toData {α : Type} {leaf : α → Value} (fields : Fields α)
    (all : ∀ l ∈ Report.leavesOfFields fields, (leaf l.2).IsData) :
    (fields.toData leaf).IsData :=
  Report.isData_toData (.nested fields) all

/-! ## Writing -/

namespace Json

theorem exists_itemTexts {level : Nat} {items : List Value}
    (all : ∀ v ∈ items, ∃ text, valueText level v = .ok text) :
    ∃ lines, itemTexts level items = .ok lines := by
  induction items with
  | nil => exact ⟨[], rfl⟩
  | cons v rest ih =>
    obtain ⟨⟨line, first⟩, others⟩ := List.forall_mem_cons.mp all
    obtain ⟨lines, later⟩ := ih others
    exact ⟨line :: lines, bind_eq_ok_iff.mpr ⟨_, first, bind_eq_ok_iff.mpr ⟨_, later, rfl⟩⟩⟩

theorem exists_entryTexts {level : Nat} {entries : List (Value × Value)}
    (keys : ∀ e ∈ entries, ∃ s, e.1 = .str s)
    (all : ∀ e ∈ entries, ∃ text, valueText level e.2 = .ok text) :
    ∃ lines, entryTexts level entries = .ok lines := by
  induction entries with
  | nil => exact ⟨[], rfl⟩
  | cons e rest ih =>
    obtain ⟨k, v⟩ := e
    obtain ⟨⟨s, rfl⟩, otherKeys⟩ := List.forall_mem_cons.mp keys
    obtain ⟨⟨line, first⟩, others⟩ := List.forall_mem_cons.mp all
    obtain ⟨lines, later⟩ := ih otherKeys others
    exact ⟨_, bind_eq_ok_iff.mpr ⟨_, rfl, bind_eq_ok_iff.mpr ⟨_, first,
      bind_eq_ok_iff.mpr ⟨_, later, rfl⟩⟩⟩⟩

theorem exists_valueText {v : Value} (data : v.IsData) (level : Nat) :
    ∃ text, valueText level v = .ok text := by
  induction data generalizing level with
  | list _ ih =>
    obtain ⟨lines, written⟩ := exists_itemTexts fun v member => ih v member (level + 1)
    exact ⟨_, bind_eq_ok_iff.mpr ⟨_, written, rfl⟩⟩
  | map keys _ ih =>
    obtain ⟨lines, written⟩ := exists_entryTexts keys fun e member => ih e member (level + 1)
    exact ⟨_, bind_eq_ok_iff.mpr ⟨_, written, rfl⟩⟩
  | _ => exact ⟨_, rfl⟩

theorem exists_write {v : Value} (data : v.IsData) : ∃ text, write v = .ok text :=
  exists_valueText data 0

end Json

/-- The report of a check as data, if the names of its entries and its messages are. -/
theorem CheckResult.isData_toData {r : CheckResult}
    (errors : ∀ l ∈ Report.leavesOfFields r.errors, l.2.name.IsData)
    (messages : ∀ l ∈ Report.leavesOfFields r.messages, l.2.IsData) : r.toData.IsData := by
  have document := Fields.isData_toData r.errors fun l member =>
    Entry.isData_toData (errors l member)
  have shown : (Fields.toData id r.messages).IsData := Fields.isData_toData r.messages messages
  refine Value.AreEntries.isData (.cons document (.cons shown (.cons ?_ Value.areEntries_nil)))
  exact Value.AreEntries.isData
    (.cons (.str _) (.cons (.bool _) (.cons (.int _) (.cons (.float _) Value.areEntries_nil))))

end Rulebook
