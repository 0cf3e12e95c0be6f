import Rulebook.Proofs.Json.Scalars
import Rulebook.Proofs.Report.PlainData

/-!
What is written as JSON and read back. Main statements:
* `readsAs_valueText`: the text of a value that JSON can hold is read as that value, at any level of
  indentation and before anything that cannot belong to it;
* `read_write`: so such a value is read from the document that it is written to.
-/

namespace Rulebook

/-- Values that JSON can hold, with numbers of some kind: null, truth values, numbers, strings,
lists of such values, and maps from different strings to such values. -/
inductive Value.InJson (number : Double → Prop) : Value → Prop where
  | null : InJson number .null
  | bool (b : Bool) : InJson number (.bool b)
  | int (n : Int) : InJson number (.int n)
  | float {x : Double} (isNumber : number x) : InJson number (.atom (.float x))
  | str (s : String) : InJson number (.str s)
  | list {items : List Value} (all : ∀ v ∈ items, InJson number v) : InJson number (.list items)
  | map {entries : List (Value × Value)} (keys : ∀ e ∈ entries, ∃ s, e.1 = .str s)
      (distinct : (entries.map (·.1)).Nodup) (all : ∀ e ∈ entries, InJson number e.2) :
      InJson number (.map entries)

/-- Values that JSON can hold. A NaN is no number. -/
abbrev Value.IsJson (v : Value) : Prop := v.InJson Double.IsNumber

theorem Value.InJson.isData {number : Double → Prop} {v : Value} (json : v.InJson number) :
    v.IsData := by
  induction json with
  | null => exact .null
  | bool b => exact .bool b
  | int n => exact .int n
  | float _ => exact .float _
  | str s => exact .str s
  | list _ ih => exact .list ih
  | map keys _ _ ih => exact .map keys ih

/-- Entries with different strings as keys are put one behind the other. -/
theorem Value.ofEntries_of_distinct {entries : List (Value × Value)}
    (keys : ∀ e ∈ entries, ∃ s, e.1 = .str s) (distinct : (entries.map (·.1)).Nodup) :
    Value.ofEntries entries = .map entries := by
  refine congrArg Value.map ?_
  induction entries using List.reverseRecOn with
  | nil => rfl
  | append_singleton before e ih =>
    obtain ⟨keysBefore, last⟩ := List.forall_mem_append.mp keys
    obtain ⟨s, key⟩ := List.forall_mem_singleton.mp last
    rw [List.map_append, List.nodup_append] at distinct
    obtain ⟨distinctBefore, _, apart⟩ := distinct
    rw [List.foldl_append, ih keysBefore distinctBefore, List.foldl_cons, List.foldl_nil, key]
    rcases put_str_cases keysBefore s e.2 with ⟨front, old, rest, found, _⟩ | ⟨_, behind⟩
    · refine absurd key.symm (apart (.str s) ?_ e.1 (List.mem_singleton_self _))
      rw [found, List.map_append]
      exact List.mem_append_right _ (List.mem_cons_self ..)
    · rw [behind, ← key]

namespace Json

/-! ## Blanks -/

theorem skipBlanks_append {blanks cs : List Char} (all : ∀ c ∈ blanks, isBlank c = true) :
    skipBlanks (blanks ++ cs) = skipBlanks cs :=
  List.dropWhile_append_of_pos all

theorem skipBlanks_cons {c : Char} {cs : List Char} (shown : isBlank c = false) :
    skipBlanks (c :: cs) = c :: cs := by
  rw [skipBlanks, List.dropWhile_cons_of_neg (by simp [shown])]

theorem blanks_newline (level : Nat) : ∀ c ∈ (newline level).toList, isBlank c = true := by
  intro c member
  rw [newline, String.toList_ofList, List.mem_cons] at member
  rcases member with rfl | space
  · rfl
  · rw [List.eq_of_mem_replicate space]
    rfl

theorem endsNumeral_comma (cs : List Char) : EndsNumeral (',' :: cs) := by
  intro c member
  cases member
  decide

theorem endsNumeral_newline (level : Nat) (cs : List Char) :
    EndsNumeral ((newline level).toList ++ cs) := by
  rw [newline, String.toList_ofList]
  exact endsNumeral_of_blank rfl _

theorem Begins.append {cs : List Char} (begins : Begins cs) (rest : List Char) :
    Begins (cs ++ rest) := by
  obtain ⟨c, ds, rfl, other⟩ := begins
  exact ⟨c, ds ++ rest, rfl, other⟩

theorem Begins.skipBlanks_eq {cs : List Char} (begins : Begins cs) : skipBlanks cs = cs := by
  obtain ⟨c, ds, rfl, shown, _⟩ := begins
  exact skipBlanks_cons shown

/-! ## Parts between two marks -/

/-- The text between two marks: lines joined by commas and line ends. -/
def inner (level : Nat) (lines : List String) : List Char :=
  (joined ("," ++ newline (level + 1)) lines).toList

theorem inner_single (level : Nat) (line : String) : inner level [line] = line.toList := rfl

theorem inner_cons (level : Nat) (line next : String) (lines : List String) :
    inner level (line :: next :: lines) =
      line.toList ++ ',' :: ((newline (level + 1)).toList ++ inner level (next :: lines)) := by
  rw [inner, joined, String.toList_append, String.toList_append, String.toList_append,
    List.append_assoc]
  · rfl
  · exact List.cons_ne_nil _ _

theorem begins_inner (level : Nat) {line : String} (begins : Begins line.toList)
    (lines : List String) : Begins (inner level (line :: lines)) := by
  cases lines with
  | nil => exact begins
  | cons next lines =>
    rw [inner_cons]
    exact begins.append _

theorem toList_block {lines : List String} (nonempty : lines ≠ []) (level : Nat)
    (first last : String) :
    (block level first last lines).toList = first.toList ++ ((newline (level + 1)).toList ++
      (inner level lines ++ ((newline level).toList ++ last.toList))) := by
  rw [block, if_neg (by simpa using nonempty)]
  simp only [String.toList_append, List.append_assoc, inner]

/-- A reader of parts, which stand on lines of their own: behind a part it ends at the closing mark
and goes on at a comma. -/
structure ReadsParts {α : Type} (read : Nat → List Char → Option (List α × List Char)) (last : Char)
    (IsPart : String → α → Prop) : Prop where
  begins : ∀ {line part}, IsPart line part → Begins line.toList
  ends : ∀ {line part fuel cs rest}, IsPart line part → 2 * line.toList.length ≤ fuel →
    EndsNumeral cs → skipBlanks cs = last :: rest →
    read (fuel + 1) (line.toList ++ cs) = some ([part], rest)
  continues : ∀ {line part fuel cs rest}, IsPart line part → 2 * line.toList.length ≤ fuel →
    EndsNumeral cs → skipBlanks cs = ',' :: rest →
    read (fuel + 1) (line.toList ++ cs) =
      (read fuel (skipBlanks rest)).map fun (parts, rest) => (part :: parts, rest)

namespace ReadsParts

variable {α : Type} {read : Nat → List Char → Option (List α × List Char)} {first last : Char}
  {IsPart : String → α → Prop} {lines : List String} {parts : List α}

/-- Parts are read one after another up to the closing mark. -/
theorem read_inner (h : ReadsParts read last IsPart) (shown : isBlank last = false)
    (all : List.Forall₂ IsPart lines parts) (nonempty : parts ≠ []) {level fuel : Nat}
    (enough : 2 * (inner level lines).length + 1 ≤ fuel) (rest : List Char) :
    read fuel (inner level lines ++ ((newline level).toList ++ last :: rest)) =
      some (parts, rest) := by
  induction all generalizing fuel with
  | nil => exact absurd rfl nonempty
  | @cons line part lines parts isFirst others ih =>
    obtain ⟨fuel, rfl⟩ : ∃ k, fuel = k + 1 := ⟨fuel - 1, by omega⟩
    cases others with
    | nil =>
      rw [inner_single] at enough ⊢
      refine h.ends isFirst (by omega) (endsNumeral_newline level _) ?_
      rw [skipBlanks_append (blanks_newline level), skipBlanks_cons shown]
    | @cons next _ lines _ isNext _ =>
      have later := begins_inner level (h.begins isNext) lines
      rw [inner_cons, List.length_append, List.length_cons, List.length_append] at enough
      rw [inner_cons, List.append_assoc, List.cons_append, List.append_assoc,
        h.continues isFirst (by omega) (endsNumeral_comma _) (skipBlanks_cons (by rfl)),
        skipBlanks_append (blanks_newline _), (later.append _).skipBlanks_eq,
        ih (List.cons_ne_nil _ _) (by omega)]
      rfl

/-- A value is read from the lines of its parts between two marks. -/
theorem readsAs_block (h : ReadsParts read last IsPart) {value : List α → Value}
    {start stop : String}
    (opening : start.toList = [first]) (closing : stop.toList = [last])
    (marks : isBlank last = false ∧ isBlank first = false ∧ first ≠ ']' ∧ first ≠ '\x7d')
    (empty : ∀ fuel rest, readValue (fuel + 1) (first :: last :: rest) = some (value [], rest))
    (opens : ∀ {fuel cs inside}, skipBlanks cs = inside → Begins inside →
      readValue (fuel + 1) (first :: cs) =
        (read fuel inside).map fun (parts, rest) => (value parts, rest))
    (all : List.Forall₂ IsPart lines parts) (level : Nat) :
    ReadsAs (block level start stop lines) (value parts) := by
  obtain ⟨shown, marks⟩ := marks
  cases all with
  | nil =>
    have text : (block level start stop []).toList = [first, last] := by
      rw [block, if_pos List.isEmpty_nil, String.toList_append, opening, closing]
      rfl
    refine .of_scalar ⟨first, [last], text, marks⟩ fun fuel rest _ => ?_
    rw [text]
    exact empty fuel rest
  | @cons line part lines parts isFirst others =>
    have text := toList_block (List.cons_ne_nil line lines) level start stop
    rw [opening, closing, List.singleton_append] at text
    have inside := begins_inner level (h.begins isFirst) lines
    refine ⟨⟨first, _, text, marks⟩, fun {fuel rest} enough _ => ?_⟩
    rw [text, List.length_cons, List.length_append, List.length_append] at enough
    obtain ⟨fuel, rfl⟩ : ∃ k, fuel = k + 1 := ⟨fuel - 1, by omega⟩
    have short : 2 * (inner level (line :: lines)).length + 1 ≤ fuel := by omega
    have read := h.read_inner shown (.cons isFirst others) (List.cons_ne_nil part parts) short rest
    have opened := (skipBlanks_append (blanks_newline (level + 1))).trans
      (inside.append ((newline level).toList ++ last :: rest)).skipBlanks_eq
    simp only [text, List.cons_append, List.append_assoc, List.nil_append,
      opens opened (inside.append _), read, Option.map_some]

end ReadsParts

/-! ## Lists and maps -/

theorem readsParts_items : ReadsParts readItems ']' ReadsAs where
  begins h := h.begins
  ends := by
    intro line v fuel cs rest h enough ends closed
    rw [readItems, h.reads enough ends]
    simp only [Option.bind_eq_bind, Option.bind_some, closed]
    rfl
  continues := by
    intro line v fuel cs rest h enough ends goesOn
    rw [readItems, h.reads enough ends]
    simp only [Option.bind_eq_bind, Option.bind_some, goesOn]
    cases readItems fuel (skipBlanks rest) <;> rfl

/-- A line that is read as an entry: a string, a colon and the text of a value. -/
def ReadsAsEntry (line : String) (entry : Value × Value) : Prop :=
  ∃ s text, line = stringText s ++ ": " ++ text ∧ entry.1 = .str s ∧ ReadsAs text entry.2

theorem ReadsAsEntry.begins {line : String} {entry : Value × Value} (h : ReadsAsEntry line entry) :
    Begins line.toList := by
  obtain ⟨s, text, rfl, _⟩ := h
  rw [String.toList_append, String.toList_append, List.append_assoc]
  exact (readsAs_stringText s).begins.append _

/-- Behind its key an entry is read like its value. -/
theorem readEntries_line {line : String} {entry : Value × Value} (h : ReadsAsEntry line entry)
    {fuel : Nat} (enough : 2 * line.toList.length ≤ fuel) {rest : List Char}
    (ends : EndsNumeral rest) :
    readEntries (fuel + 1) (line.toList ++ rest) =
      match skipBlanks rest with
      | '\x7d' :: rest => some ([entry], rest)
      | ',' :: rest => do
        let (entries, rest) ← readEntries fuel (skipBlanks rest)
        return (entry :: entries, rest)
      | _ => none := by
  obtain ⟨s, text, rfl, key, h⟩ := h
  have short : 2 * text.toList.length ≤ fuel := by
    rw [String.toList_append, List.length_append] at enough
    omega
  have colon : (": " : String).toList = [':', ' '] := rfl
  have same : (.str s, entry.2) = entry := by rw [← key]
  have after : skipBlanks (' ' :: (text.toList ++ rest)) = text.toList ++ rest :=
    (h.begins.append rest).skipBlanks_eq
  rw [String.toList_append, String.toList_append, List.append_assoc, List.append_assoc,
    stringText_append, colon, readEntries, readString_quoted]
  simp only [Option.bind_eq_bind, Option.bind_some, List.cons_append, List.nil_append,
    skipBlanks_cons (by rfl : isBlank ':' = false), after, h.reads short ends,
    String.ofList_toList, same]
  rfl

theorem readsParts_entries : ReadsParts readEntries '\x7d' ReadsAsEntry where
  begins h := h.begins
  ends := by
    intro line entry fuel cs rest h enough ends closed
    rw [readEntries_line h enough ends, closed]
    rfl
  continues := by
    intro line entry fuel cs rest h enough ends goesOn
    rw [readEntries_line h enough ends]
    simp only [goesOn]
    cases readEntries fuel (skipBlanks rest) <;> rfl

theorem Begins.head_ne {cs : List Char} (begins : Begins cs) (rest : List Char) :
    cs ≠ ']' :: rest ∧ cs ≠ '\x7d' :: rest := by
  obtain ⟨c, ds, rfl, _, noBracket, noBrace⟩ := begins
  exact ⟨fun same => noBracket (List.cons.inj same).1, fun same => noBrace (List.cons.inj same).1⟩

theorem readValue_list {fuel : Nat} {cs inside : List Char} (shown : skipBlanks cs = inside)
    (begins : Begins inside) :
    readValue (fuel + 1) ('[' :: cs) =
      (readItems fuel inside).map fun (items, rest) => (.list items, rest) := by
  rw [readValue, shown]
  split
  · exact absurd rfl (begins.head_ne _).1
  · cases readItems fuel inside <;> rfl

theorem readValue_map {fuel : Nat} {cs inside : List Char} (shown : skipBlanks cs = inside)
    (begins : Begins inside) :
    readValue (fuel + 1) ('\x7b' :: cs) =
      (readEntries fuel inside).map fun (entries, rest) => (.ofEntries entries, rest) := by
  rw [readValue, shown]
  split
  · exact absurd rfl (begins.head_ne _).2
  · cases readEntries fuel inside <;> rfl

theorem readsAs_list {lines : List String} {items : List Value}
    (all : List.Forall₂ ReadsAs lines items) (level : Nat) :
    ReadsAs (block level "[" "]" lines) (.list items) :=
  readsParts_items.readsAs_block rfl rfl (by decide) (fun _ _ => rfl) readValue_list all level

theorem readsAs_map {lines : List String} {entries : List (Value × Value)}
    (all : List.Forall₂ ReadsAsEntry lines entries) (level : Nat) :
    ReadsAs (block level "\x7b" "\x7d" lines) (.ofEntries entries) :=
  readsParts_entries.readsAs_block rfl rfl (by decide) (fun _ _ => rfl) readValue_map all level

/-! ## Values -/

theorem forall_itemTexts {level : Nat} {items : List Value} {lines : List String}
    (written : itemTexts level items = .ok lines)
    (each : ∀ v ∈ items, ∀ {text}, valueText level v = .ok text → ReadsAs text v) :
    List.Forall₂ ReadsAs lines items := by
  induction items generalizing lines with
  | nil =>
    cases written
    exact .nil
  | cons v items ih =>
    obtain ⟨first, others⟩ := List.forall_mem_cons.mp each
    obtain ⟨line, here, written⟩ := bind_eq_ok_iff.mp written
    obtain ⟨later, there, written⟩ := bind_eq_ok_iff.mp written
    cases written
    exact .cons (first here) (ih there others)

theorem forall_entryTexts {level : Nat} {entries : List (Value × Value)} {lines : List String}
    (written : entryTexts level entries = .ok lines) (keys : ∀ e ∈ entries, ∃ s, e.1 = .str s)
    (each : ∀ e ∈ entries, ∀ {text}, valueText level e.2 = .ok text → ReadsAs text e.2) :
    List.Forall₂ ReadsAsEntry lines entries := by
  induction entries generalizing lines with
  | nil =>
    cases written
    exact .nil
  | cons entry entries ih =>
    obtain ⟨first, others⟩ := List.forall_mem_cons.mp each
    obtain ⟨⟨s, key⟩, otherKeys⟩ := List.forall_mem_cons.mp keys
    obtain ⟨key', keyWritten, written⟩ := bind_eq_ok_iff.mp written
    obtain ⟨line, here, written⟩ := bind_eq_ok_iff.mp written
    obtain ⟨later, there, written⟩ := bind_eq_ok_iff.mp written
    rw [key] at keyWritten
    cases keyWritten
    cases written
    exact .cons ⟨s, line, rfl, key, first here⟩ (ih there otherKeys others)

/-- The text of a value that JSON can hold is read as that value, wherever it stands. -/
theorem readsAs_valueText {v : Value} (json : v.IsJson) {level : Nat} {text : String}
    (written : valueText level v = .ok text) : ReadsAs text v := by
  induction json generalizing level text with
  | null =>
    cases written
    exact readsAs_word (List.mem_cons_self ..)
  | bool b =>
    cases written
    cases b
    · exact readsAs_word (.tail _ (.tail _ (.head _)))
    · exact readsAs_word (.tail _ (.head _))
  | int n =>
    cases written
    exact readsAs_int n
  | float number =>
    cases written
    exact readsAs_double number
  | str s =>
    cases written
    exact readsAs_stringText s
  | list _ ih =>
    obtain ⟨lines, items, written⟩ := bind_eq_ok_iff.mp written
    cases written
    exact readsAs_list (forall_itemTexts items fun v member => ih v member) level
  | map keys distinct _ ih =>
    obtain ⟨lines, entries, written⟩ := bind_eq_ok_iff.mp written
    cases written
    rw [← Value.ofEntries_of_distinct keys distinct]
    exact readsAs_map (forall_entryTexts entries keys fun e member => ih e member) level

/-- **A value is read from the document that it is written to**, whatever blanks follow it. -/
theorem read_write {v : Value} (json : v.IsJson) {text : String} (written : write v = .ok text)
    {after : String} (blanks : ∀ c ∈ after.toList, isBlank c = true) :
    read (text ++ after) = some v := by
  have h := readsAs_valueText json written
  have ends : EndsNumeral after.toList := by
    cases split : after.toList with
    | nil => exact nofun
    | cons c cs => exact endsNumeral_of_blank (blanks c (split ▸ List.mem_cons_self ..)) cs
  have rest : skipBlanks after.toList = [] := List.dropWhile_eq_nil_iff.mpr blanks
  have enough : 2 * text.toList.length ≤ 2 * (text.toList ++ after.toList).length + 2 := by
    rw [List.length_append]
    omega
  rw [read, String.toList_append, (h.begins.append _).skipBlanks_eq]
  simp only [h.reads enough ends, rest, List.isEmpty_nil, if_true]

end Json

end Rulebook
