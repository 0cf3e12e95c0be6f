import Rulebook.Proofs.Check.Agreement
import Rulebook.Proofs.OrderedMap

/-!
What the plain form of a report is. It is described part by part: what plain data can hold stays as
it is, sequences are shown item by item, maps and fields under the texts of their keys, and whatever
else there is as its plain text. Main statements:
* `Value.renders_iff`: the plain form of a value is what this description says, and nothing else is;
* `Report.renders_iff`: so is the data of a report, if the data of its statements is;
* `writeWith_of_isData`: plain data is written without a fallback for other values;
* `rendered_documents`: so the document of results is shown as plain data and can be written;
* `json_of_run`: and so is the report of a check.
-/

namespace Rulebook

/-! ## Maps under texts -/

theorem lookup_map {α β γ : Type} [BEq α] (f : β → γ) (entries : List (α × β)) (k : α) :
    (entries.map fun e => (e.1, f e.2)).lookup k = (entries.lookup k).map f := by
  induction entries with
  | nil => rfl
  | cons e rest ih =>
    rw [List.map_cons, List.lookup_cons, List.lookup_cons, ih]
    split <;> rfl

namespace Value

/-- The entries of a map whose keys are strings. -/
def textEntries (m : OrderedMap String Value) : List (Value × Value) :=
  m.entries.map fun e => (.str e.1, e.2)

/-- A map whose keys are strings. -/
def ofTexts (m : OrderedMap String Value) : Value := .map (textEntries m)

theorem putText_textEntries (text : String) (v : Value) (m : OrderedMap String Value) :
    putText text v (textEntries m) = textEntries (m.put text v) := by
  obtain ⟨entries, different⟩ := m
  change put (.str text) v (entries.map _) = (OrderedMap.putEntry text v entries).map _
  clear different
  induction entries with
  | nil => rfl
  | cons e rest ih =>
    rw [List.map_cons, put, OrderedMap.putEntry, sameKey_str, ih]
    by_cases same : e.1 = text
    · simp [same]
    · simp [same, Ne.symm same]

section

variable {β : Type}

/-- What stands under a text: of several keys with one text the last one counts. -/
def lastUnder (text : String) (entries : List (Value × β)) : Option β :=
  (entries.map fun e => (e.1.text, e.2)).reverse.lookup text

theorem mem_of_lastUnder {text : String} {entries : List (Value × β)} {b : β}
    (found : lastUnder text entries = some b) : ∃ k, (k, b) ∈ entries := by
  obtain ⟨before, after, split, _⟩ := List.lookup_eq_some_iff.mp found
  have known : (text, b) ∈ entries.map fun e => (e.1.text, e.2) := by
    rw [← List.mem_reverse, split]
    exact List.mem_append_right _ (List.mem_cons_self ..)
  obtain ⟨⟨k, _⟩, member, same⟩ := List.mem_map.mp known
  cases same
  exact ⟨k, member⟩

/-- The texts of the keys, each where it first occurs, with something for what stands under it. -/
def underTexts (f : β → Value) (entries : List (Value × β)) : OrderedMap String Value :=
  .ofList (entries.map fun e => (e.1.text, f e.2))

theorem keys_underTexts (f : β → Value) (entries : List (Value × β)) :
    (underTexts f entries).keys = (entries.map (·.1.text)).eraseDups := by
  rw [underTexts, OrderedMap.keys_ofList, List.map_map]
  rfl

theorem get?_underTexts (f : β → Value) (entries : List (Value × β)) (text : String) :
    (underTexts f entries).get? text = (lastUnder text entries).map f := by
  rw [underTexts, OrderedMap.get?_ofList, lastUnder, ← lookup_map, ← List.map_reverse,
    ← List.map_reverse, List.map_map]
  rfl

theorem eq_of_get?_underTexts {f : β → Value} {entries : List (Value × β)} {text : String} {b : β}
    {w : Value} (found : lastUnder text entries = some b)
    (shown : (underTexts f entries).get? text = some w) : w = f b := by
  rw [get?_underTexts, found] at shown
  exact (Option.some.inj shown).symm

/-- A map is known by its keys and by what it has for what stands under their texts. -/
theorem eq_underTexts {f : β → Value} {entries : List (Value × β)} {m : OrderedMap String Value}
    (keys : m.keys = (entries.map (·.1.text)).eraseDups)
    (each : ∀ text b w, lastUnder text entries = some b → m.get? text = some w → w = f b) :
    m = underTexts f entries := by
  have same := keys.trans (keys_underTexts f entries).symm
  refine OrderedMap.ext_get? same fun text => ?_
  have both : (m.get? text).isSome = (lastUnder text entries).isSome := by
    rw [← Option.isSome_map (f := f), ← get?_underTexts, Bool.eq_iff_iff,
      OrderedMap.isSome_get?_iff, OrderedMap.isSome_get?_iff, same]
  rw [get?_underTexts]
  cases found : lastUnder text entries with
  | none => simpa [found] using both
  | some b =>
    obtain ⟨w, shown⟩ := Option.isSome_iff_exists.mp (both.trans (by rw [found]; rfl))
    rw [shown, each text b w found shown]
    rfl

end

end Value

theorem eq_map_of_getElem? {α β : Type} {f : α → β} {items : List α} {shown : List β}
    (length : shown.length = items.length)
    (each : ∀ (i : Nat) a b, items[i]? = some a → shown[i]? = some b → b = f a) :
    shown = items.map f := by
  refine List.ext_getElem (by rw [length, List.length_map]) fun i inside inside' => ?_
  rw [List.getElem_map]
  exact each i _ _ (List.getElem?_eq_getElem _) (List.getElem?_eq_getElem _)

/-! ## Values -/

/-- Atoms that plain data has: null, truth values, integers, doubles and strings. -/
def Atom.isPlain : Atom → Bool
  | .null | .bool _ | .int _ | .float _ | .str _ => true
  | _ => false

namespace Value

/-- How a value is shown as plain data. Atoms that plain data has stay as they are, other atoms and
sets become their plain texts. Of a sequence every item is shown, in order. A map is shown under the
texts of its keys, each where it first occurs, and of several keys with one text the value of the
last one. -/
inductive Renders : Value → Value → Prop where
  | kept {a : Atom} (isPlain : a.isPlain = true) : Renders (.atom a) (.atom a)
  | atomText {a : Atom} (other : a.isPlain = false) : Renders (.atom a) (.str a.text)
  | setText (kind : SetKind) (members : List Value) :
      Renders (.set kind members) (.str (Value.set kind members).text)
  | seq {kind : SeqKind} {items shown : List Value} (length : shown.length = items.length)
      (each : ∀ (i : Nat) v w, items[i]? = some v → shown[i]? = some w → Renders v w) :
      Renders (.seq kind items) (.list shown)
  | map {entries : List (Value × Value)} {shown : OrderedMap String Value}
      (keys : shown.keys = (entries.map (·.1.text)).eraseDups)
      (each : ∀ text v w, lastUnder text entries = some v → shown.get? text = some w →
        Renders v w) :
      Renders (.map entries) (ofTexts shown)

theorem plainAll_eq_map (items : List Value) : plainAll items = items.map plain := by
  induction items with
  | nil => rfl
  | cons v rest ih => rw [plainAll, ih, List.map_cons]

theorem plainEntries_textEntries (entries : List (Value × Value)) (m : OrderedMap String Value) :
    plainEntries entries (textEntries m) =
      textEntries (m.putAll (entries.map fun e => (e.1.text, e.2.plain))) := by
  induction entries generalizing m with
  | nil => rfl
  | cons e rest ih =>
    rw [plainEntries, putText_textEntries, ih]
    rfl

theorem plain_map (entries : List (Value × Value)) :
    (Value.map entries).plain = ofTexts (underTexts plain entries) := by
  rw [plain]
  exact congrArg Value.map (plainEntries_textEntries entries .empty)

theorem sizeOf_lt_seq {kind : SeqKind} {items : List Value} {v : Value} (member : v ∈ items) :
    sizeOf v < sizeOf (Value.seq kind items) := by
  have smaller := List.sizeOf_lt_of_mem member
  rw [seq.sizeOf_spec]
  omega

theorem sizeOf_lt_map {entries : List (Value × Value)} {e : Value × Value} (member : e ∈ entries) :
    sizeOf e.2 < sizeOf (Value.map entries) := by
  have smaller := List.sizeOf_lt_of_mem member
  obtain ⟨k, v⟩ := e
  rw [Prod.mk.sizeOf_spec] at smaller
  change sizeOf v < _
  rw [map.sizeOf_spec]
  omega

theorem renders_plain (v : Value) : v.Renders v.plain := by
  match v with
  | .atom a =>
    cases a with
    | null | bool | int | float | str => exact .kept rfl
    | _ => exact .atomText rfl
  | .set kind members => exact .setText kind members
  | .seq kind items =>
    rw [plain, plainAll_eq_map]
    refine .seq (List.length_map ..) fun i v w item shown => ?_
    rw [List.getElem?_map, item] at shown
    cases shown
    have member := List.mem_of_getElem? item
    exact renders_plain v
  | .map entries =>
    rw [plain_map]
    refine .map (keys_underTexts ..) fun text v w found shown => ?_
    rw [eq_of_get?_underTexts found shown]
    obtain ⟨k, member⟩ := mem_of_lastUnder found
    exact renders_plain v
termination_by sizeOf v
decreasing_by
  · exact sizeOf_lt_seq member
  · exact sizeOf_lt_map member

theorem Renders.eq_plain {v w : Value} (renders : v.Renders w) : w = v.plain := by
  induction renders with
  | @kept a isPlain => cases a <;> first | rfl | cases isPlain
  | @atomText a other => cases a <;> first | rfl | cases other
  | setText kind members => rfl
  | seq length _ ih => rw [plain, plainAll_eq_map, eq_map_of_getElem? length ih]
  | map keys _ ih => rw [plain_map, eq_underTexts keys ih]

/-- The plain form is what the description says, and nothing else is. -/
theorem renders_iff {v w : Value} : v.Renders w ↔ w = v.plain := by
  constructor
  · exact Renders.eq_plain
  · rintro rfl
    exact renders_plain v

end Value

/-! ## Entries -/

namespace Entry

/-- The arguments of an entry as a map from the names of the parameters. -/
def argumentMap (e : Entry) : Value := .map (e.arguments.map fun a => (.str a.1, a.2))

/-- How an entry is shown: its name, which is a string, an integer or null, and the texts of its
predicate and its kind as they are, and its arguments and its value in their plain form. -/
inductive Renders : Entry → Value → Prop where
  | parts {e : Entry} {arguments value : Value} (named : e.name.isName true = true)
      (bound : e.argumentMap.Renders arguments) (about : e.value.Renders value) :
      Renders e (.map [(.str "name", e.name), (.str "predicate", .str e.predicate),
        (.str "args", arguments), (.str "value", value), (.str "rule_type", .str e.ruleType)])

theorem toData_eq (e : Entry) :
    e.toData = .map [(.str "name", e.name), (.str "predicate", .str e.predicate),
      (.str "args", e.argumentMap.plain), (.str "value", e.value.plain),
      (.str "rule_type", .str e.ruleType)] := by
  have shown (arguments : List (String × Value)) (found : List (Value × Value)) :
      arguments.foldl (fun found a => Value.putText a.1 a.2.plain found) found =
        Value.plainEntries (arguments.map fun a => (.str a.1, a.2)) found := by
    induction arguments generalizing found with
    | nil => rfl
    | cons a rest ih => exact ih _
  rw [toData, argumentMap, Value.plain, shown]

theorem renders_iff {e : Entry} (named : e.name.isName true = true) {w : Value} :
    e.Renders w ↔ w = e.toData := by
  rw [toData_eq]
  constructor
  · rintro ⟨_, bound, about⟩
    rw [bound.eq_plain, about.eq_plain]
  · rintro rfl
    exact .parts named (Value.renders_plain _) (Value.renders_plain _)

end Entry

/-! ## Reports -/

namespace Report

variable {α : Type} {R : α → Value → Prop} {leaf : α → Value}

/-- How a report is shown, if it is known how statements are shown. Fields stand under the texts of
their keys, each where it first occurs, and of several fields with one text the last one is shown:
as a list of its items, in order. -/
inductive Renders (R : α → Value → Prop) : Report α → Value → Prop where
  | leaf {a : α} {w : Value} (shown : R a w) : Renders R (.leaf a) w
  | nested {fields : Fields α} {shown : OrderedMap String Value}
      (keys : shown.keys = (fields.map (·.1.text)).eraseDups)
      (lists : ∀ text items w, Value.lastUnder text fields = some items →
        shown.get? text = some w → ∃ listed, w = .list listed ∧ listed.length = items.length)
      (each : ∀ text items listed, Value.lastUnder text fields = some items →
        shown.get? text = some (.list listed) →
        ∀ (i : Nat) item w, items[i]? = some item → listed[i]? = some w → Renders R item w) :
      Renders R (.nested fields) (.ofTexts shown)

theorem dataOfItems_eq_map (items : List (Report α)) :
    dataOfItems leaf items = items.map (toData leaf) := by
  induction items with
  | nil => rfl
  | cons item rest ih => rw [dataOfItems, ih, List.map_cons]

/-- The items of a field as a list. -/
def listOf (leaf : α → Value) (items : List (Report α)) : Value := .list (items.map (toData leaf))

theorem dataOfFields_textEntries (fields : Fields α) (m : OrderedMap String Value) :
    dataOfFields leaf fields (Value.textEntries m) =
      Value.textEntries (m.putAll (fields.map fun f => (f.1.text, listOf leaf f.2))) := by
  induction fields generalizing m with
  | nil => rfl
  | cons f rest ih =>
    rw [dataOfFields, Value.putText_textEntries, ih, dataOfItems_eq_map]
    rfl

theorem toData_nested (fields : Fields α) :
    (Report.nested fields).toData leaf = .ofTexts (Value.underTexts (listOf leaf) fields) := by
  rw [toData]
  exact congrArg Value.map (dataOfFields_textEntries fields .empty)

theorem mem_leavesOfItems {items : List (Report α)} {item : Report α} (member : item ∈ items)
    {l : List Value × α} (inside : l ∈ item.leaves) : l ∈ leavesOfItems items := by
  induction items with
  | nil => cases member
  | cons first rest ih =>
    rw [leavesOfItems, List.mem_append]
    rcases List.mem_cons.mp member with rfl | member
    · exact .inl inside
    · exact .inr (ih member)

theorem mem_leaves_nested {fields : Fields α} {text : String} {items : List (Report α)}
    (found : Value.lastUnder text fields = some items) {item : Report α} (member : item ∈ items)
    {l : List Value × α} (inside : l ∈ item.leaves) :
    ∃ k, (k :: l.1, l.2) ∈ (Report.nested fields).leaves := by
  obtain ⟨k, field⟩ := Value.mem_of_lastUnder found
  refine ⟨k, ?_⟩
  rw [leaves, leavesOfFields_eq_flatMap]
  exact List.mem_flatMap.mpr ⟨_, field, List.mem_map_of_mem (mem_leavesOfItems member inside)⟩

/-- The data of a report shows it, if the data of its statements does. -/
theorem renders_toData (r : Report α) (all : ∀ l ∈ r.leaves, R l.2 (leaf l.2)) :
    r.Renders R (r.toData leaf) := by
  match r with
  | .leaf a => exact .leaf (all _ (List.mem_singleton_self _))
  | .nested fields =>
    rw [toData_nested]
    refine .nested (Value.keys_underTexts ..) ?_ ?_
    · intro text items w found shown
      rw [Value.eq_of_get?_underTexts found shown]
      exact ⟨_, rfl, List.length_map ..⟩
    · intro text items listed found shown i item w inside here
      cases Value.eq_of_get?_underTexts found shown
      rw [List.getElem?_map, inside] at here
      cases here
      have member := List.mem_of_getElem? inside
      refine renders_toData item fun l below => ?_
      obtain ⟨k, known⟩ := mem_leaves_nested found member below
      exact all (k :: l.1, l.2) known
termination_by sizeOf r
decreasing_by
  obtain ⟨k, field⟩ := Value.mem_of_lastUnder found
  have smaller := List.sizeOf_lt_of_mem field
  have smaller' := List.sizeOf_lt_of_mem member
  rw [Prod.mk.sizeOf_spec] at smaller
  rw [nested.sizeOf_spec]
  omega

theorem Renders.eq_toData {r : Report α} {w : Value} (renders : r.Renders R w)
    (all : ∀ l ∈ r.leaves, ∀ v, R l.2 v → v = leaf l.2) : w = r.toData leaf := by
  induction renders with
  | leaf shown => exact all _ (List.mem_singleton_self _) _ shown
  | @nested fields shown keys lists _ ih =>
    have same : shown = Value.underTexts (listOf leaf) fields := by
      refine Value.eq_underTexts keys fun text items w found here => ?_
      obtain ⟨listed, rfl, length⟩ := lists text items w found here
      refine congrArg Value.list (eq_map_of_getElem? length fun i item w inside there => ?_)
      refine ih text items listed found here i item w inside there fun l below => ?_
      obtain ⟨k, known⟩ := mem_leaves_nested found (List.mem_of_getElem? inside) below
      exact all (k :: l.1, l.2) known
    rw [toData_nested, same]

theorem renders_iff {r : Report α} (all : ∀ l ∈ r.leaves, ∀ v, R l.2 v ↔ v = leaf l.2) {w : Value} :
    r.Renders R w ↔ w = r.toData leaf := by
  constructor
  · intro renders
    exact renders.eq_toData fun l member v => (all l member v).mp
  · rintro rfl
    exact renders_toData r fun l member => (all l member _).mpr rfl

end Report

/-! ## Writing -/

namespace Json

mutual

/-- A value at a level of indentation, with a fallback for what the notation lacks. -/
def valueTextWith (fallback : Value → Except Fault String) (level : Nat) :
    Value → Except Fault String
  | .atom a => if a.isPlain then .ok (atomText a) else fallback (.atom a)
  | .seq _ items => do return block level "[" "]" (← itemTextsWith fallback (level + 1) items)
  | .set kind members => fallback (.set kind members)
  | .map entries => do
    return block level "\x7b" "\x7d" (← entryTextsWith fallback (level + 1) entries)

def itemTextsWith (fallback : Value → Except Fault String) (level : Nat) :
    List Value → Except Fault (List String)
  | [] => .ok []
  | v :: rest => do
    let line ← valueTextWith fallback level v
    return line :: (← itemTextsWith fallback level rest)

def entryTextsWith (fallback : Value → Except Fault String) (level : Nat) :
    List (Value × Value) → Except Fault (List String)
  | [] => .ok []
  | (k, v) :: rest => do
    let key ← keyText k
    let line ← valueTextWith fallback level v
    return (key ++ ": " ++ line) :: (← entryTextsWith fallback level rest)

end

/-- The document that holds a value, with a fallback for what the notation lacks. -/
def writeWith (fallback : Value → Except Fault String) (v : Value) : Except Fault String :=
  valueTextWith fallback 0 v

/-- The plain text of a value as a string. -/
def textFallback (v : Value) : Except Fault String := .ok (stringText v.text)

variable {fallback : Value → Except Fault String}

theorem itemTextsWith_congr {level : Nat} {items : List Value}
    (all : ∀ v ∈ items, valueTextWith fallback level v = valueText level v) :
    itemTextsWith fallback level items = itemTexts level items := by
  induction items with
  | nil => rfl
  | cons v rest ih =>
    obtain ⟨first, others⟩ := List.forall_mem_cons.mp all
    rw [itemTextsWith, itemTexts, first, ih others]

theorem entryTextsWith_congr {level : Nat} {entries : List (Value × Value)}
    (all : ∀ e ∈ entries, valueTextWith fallback level e.2 = valueText level e.2) :
    entryTextsWith fallback level entries = entryTexts level entries := by
  induction entries with
  | nil => rfl
  | cons e rest ih =>
    obtain ⟨first, others⟩ := List.forall_mem_cons.mp all
    rw [entryTextsWith, entryTexts, first, ih others]

theorem valueTextWith_of_isData {v : Value} (data : v.IsData) (level : Nat) :
    valueTextWith fallback level v = valueText level v := by
  induction data generalizing level with
  | list _ ih => rw [valueTextWith, valueText, itemTextsWith_congr fun v member => ih v member _]
  | map _ _ ih => rw [valueTextWith, valueText, entryTextsWith_congr fun e member => ih e member _]
  | _ => rfl

/-- Plain data is written without a fallback. -/
theorem writeWith_of_isData {v : Value} (data : v.IsData) : writeWith fallback v = write v :=
  valueTextWith_of_isData data 0

theorem exists_writeWith {v : Value} (data : v.IsData) :
    ∃ text, write v = .ok text ∧ ∀ fallback, writeWith fallback v = .ok text := by
  obtain ⟨text, written⟩ := exists_write data
  exact ⟨text, written, fun fallback => (writeWith_of_isData data).trans written⟩

theorem valueTextWith_textFallback (v : Value) (level : Nat) :
    valueTextWith textFallback level v = valueText level v := by
  match v with
  | .atom a => cases a <;> rfl
  | .set kind members => rfl
  | .seq _ items =>
    have all : ∀ v ∈ items, valueTextWith textFallback (level + 1) v = valueText (level + 1) v :=
      fun v member => valueTextWith_textFallback v _
    rw [valueTextWith, valueText, itemTextsWith_congr all]
  | .map entries =>
    have all : ∀ e ∈ entries,
        valueTextWith textFallback (level + 1) e.2 = valueText (level + 1) e.2 :=
      fun e member => valueTextWith_textFallback e.2 _
    rw [valueTextWith, valueText, entryTextsWith_congr all]
termination_by sizeOf v
decreasing_by
  · exact Value.sizeOf_lt_seq member
  · exact Value.sizeOf_lt_map member

/-- Writing has the plain text of a value as its fallback. -/
theorem writeWith_textFallback (v : Value) : writeWith textFallback v = write v :=
  valueTextWith_textFallback v 0

end Json

/-! ## Documents -/

/-- **Documents are shown as plain data.** The document of results that compiled rules came to has
exactly one plain form: fields stand as lists under the texts of their names, at any depth, entries
have their names as they are, and arguments and values are shown in full, with sequences item by item
and everything that plain data can hold as it is. It is plain data at any depth; so the report of a
check that shows the document and texts as its messages is written as JSON, and no fallback for other
values makes a difference. -/
theorem rendered_documents {results : List Result} (obtained : ∀ r ∈ results, r.Obtained) :
    ∃ doc, Document.ofResults results = .ok doc ∧
      (∀ shown, Report.Renders Entry.Renders (.nested doc) shown ↔
        shown = doc.toData Entry.toData) ∧
      (doc.toData Entry.toData).IsData ∧
      ∀ r : CheckResult, r.errors = doc →
        (∀ l ∈ Report.leavesOfFields r.messages, ∃ s, l.2 = .str s) →
        r.toData.IsData ∧
          ∃ text, r.json = .ok text ∧ ∀ fallback, Json.writeWith fallback r.toData = .ok text := by
  have shaped : ∀ f ∈ failures results, f.Shaped := fun f => shaped_of_mem_failures obtained
  have named := Document.names_grouped shaped
  refine ⟨_, Document.ofResults_of_shaped shaped, fun shown => ?_, ?_, fun r errors messages => ?_⟩
  · exact Report.renders_iff (r := .nested _) fun l member v => Entry.renders_iff (named l member)
  · exact Fields.isData_toData _ fun l member =>
      Entry.isData_toData (Value.isData_of_isName (named l member))
  · have data : r.toData.IsData := by
      refine CheckResult.isData_toData (fun l member => ?_) fun l member => ?_
      · exact Value.isData_of_isName (named l (errors ▸ member))
      · obtain ⟨s, isText⟩ := messages l member
        exact isText ▸ .str s
    exact ⟨data, Json.exists_writeWith data⟩

/-- A check that comes to a result has a report that is written without a fallback. -/
theorem Check.json_of_run {w : Workspace} {elapsed : Double} {schemaPath inputPath : Path}
    {o : CheckOptions} {r : CheckResult}
    (came : (Check.run w elapsed schemaPath inputPath o).collect.1 = .ok r) :
    ∃ text, r.json = .ok text ∧ ∀ fallback, Json.writeWith fallback r.toData = .ok text := by
  obtain ⟨_, _, _, ran, shows⟩ := ran_of_run came
  exact Json.exists_writeWith (shows.isData ran.names_errors)

/-- Two things that a shelf must hold. -/
def shelfRule : Rule :=
  .val (.int 7) (.ofStandard (.binary .equals))
    [.tuple [.set .frozen [.int 1], .atom (.span ⟨1, 5, 1, Int.one_ne_zero⟩)]]

/-- Shelves of which the seventh holds something else, twice under a key with the text `1`. -/
def shelves : Value :=
  .map [(.int 7, .map [(.int 1, .tuple []), (.null, .tuple [.absent, .bool true, .int 3]),
    (.str "1", .set .plain [.int 2])])]

/-- The entry about the seventh shelf as data. -/
def shelfData : Value :=
  .map [(.str "7", .list [.map [(.str "name", .int 7), (.str "predicate", .str "eql?"),
    (.str "args", .map [(.str "left", .list [.str "frozenset(\x7b1\x7d)", .str "range(1, 5)"])]),
    (.str "value", .map [(.str "1", .str "\x7b2\x7d"),
      (.str "None", .list [.str "ABSENT", .bool true, .int 3])]),
    (.str "rule_type", .str "val")]])]

theorem rendered_documents_shelf :
    ∃ res doc, (shelfRule.run (.ofAnswers standardAnswer) shelves).1 = .ok res ∧ res.Obtained ∧
      Document.ofResults [res] = .ok doc ∧
      Report.Renders Entry.Renders (.nested doc) shelfData ∧ shelfData.IsData ∧
      ∀ r : CheckResult, r.errors = doc → r.messages = [(.int 7, [.leaf (.str "other")])] →
        ∃ text, r.json = .ok text ∧ ∀ fallback, Json.writeWith fallback r.toData = .ok text := by
  obtain ⟨res, doc, came, made, shown⟩ : ∃ res doc,
      (shelfRule.run (.ofAnswers standardAnswer) shelves).1 = .ok res ∧
      Document.ofResults [res] = .ok doc ∧ doc.toData Entry.toData = shelfData :=
    ⟨_, _, rfl, rfl, rfl⟩
  have compiled : (Compiler.ofRegistry .standard).compile shelfRule.toNode = .ok shelfRule :=
    Compiler.compile_toNode (Compiler.ofRegistry_lawful .standard) (by decide +kernel)
  have obtained : res.Obtained := ⟨.standard, _, shelfRule, _, shelves, compiled, came⟩
  obtain ⟨doc', made', renders, data, written⟩ :=
    rendered_documents (List.forall_mem_singleton.mpr obtained)
  cases Except.ok.inj (made.symm.trans made')
  refine ⟨res, doc, came, obtained, made, (renders _).mpr shown.symm, shown ▸ data, ?_⟩
  intro r errors messages
  refine (written r errors fun l member => ?_).2
  rw [messages] at member
  cases List.mem_singleton.mp member
  exact ⟨_, rfl⟩

end Rulebook
