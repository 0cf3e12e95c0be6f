import Rulebook.Proofs.Check.Agreement
import Rulebook.Proofs.Message.Coverage
import Rulebook.Proofs.Report.Rendering

/-!
The report with one line per message, read line by line. Main statements:
* `foldl_pathOf`: a path has the names of its keys, without the empty ones that come first;
* `linesOf_joined`: a line is read back as the lines into which it falls;
* `readsBack_iff`: the messages are read back if nothing in them looks like an end of their parts;
* `porcelain_lines`: so exactly these reports can be read back.
-/

namespace Rulebook

namespace Report

/-! ## Paths -/

/-- The names on the way to a message: null is none. -/
def namesOn (keys : List Value) : List String :=
  (keys.filter fun key => !key.isNull).map Value.text

/-- All names on the way to a message, joined by points. -/
def dotted (keys : List Value) : String := joined "." (namesOn keys)

theorem namesOn_cons_of_isNull {key : Value} (null : key.isNull = true) (rest : List Value) :
    namesOn (key :: rest) = namesOn rest := by
  simp [namesOn, null]

theorem namesOn_cons {key : Value} (named : key.isNull = false) (rest : List Value) :
    namesOn (key :: rest) = key.text :: namesOn rest := by
  simp [namesOn, named]

theorem joined_cons_cons (separator s t : String) (rest : List String) :
    joined separator (s :: t :: rest) = joined separator ((s ++ separator ++ t) :: rest) := by
  cases rest <;> simp [joined, String.append_assoc]

theorem foldl_pathOf_of_nonempty {around : String} (nonempty : around ≠ "") (keys : List Value) :
    keys.foldl pathOf around = joined "." (around :: namesOn keys) := by
  induction keys generalizing around with
  | nil => rfl
  | cons key rest ih =>
    rw [List.foldl_cons]
    cases null : key.isNull with
    | true =>
      have same : pathOf around key = around := if_pos null
      rw [same, ih nonempty, namesOn_cons_of_isNull null]
    | false =>
      have longer : pathOf around key = around ++ "." ++ key.text := by
        simp [pathOf, null, nonempty]
      have nonempty' : around ++ "." ++ key.text ≠ "" := by simp
      rw [longer, ih nonempty', namesOn_cons null, joined_cons_cons]

/-- An empty name is taken for none as long as nothing stands before it. -/
theorem foldl_pathOf (keys : List Value) :
    keys.foldl pathOf "" = joined "." ((namesOn keys).dropWhile (·.isEmpty)) := by
  induction keys with
  | nil => rfl
  | cons key rest ih =>
    rw [List.foldl_cons]
    cases null : key.isNull with
    | true =>
      have same : pathOf "" key = "" := if_pos null
      rw [same, ih, namesOn_cons_of_isNull null]
    | false =>
      have first : pathOf "" key = key.text := by simp [pathOf, null]
      rw [first, namesOn_cons null]
      by_cases empty : key.text = ""
      · rw [empty, ih, List.dropWhile_cons_of_pos (by simp)]
      · rw [foldl_pathOf_of_nonempty empty, List.dropWhile_cons_of_neg (by simpa using empty)]

theorem length_joined_dropWhile_le (separator : String) (p : String → Bool) (names : List String) :
    (joined separator (names.dropWhile p)).length ≤ (joined separator names).length := by
  induction names with
  | nil => exact Nat.le_refl _
  | cons s rest ih =>
    rw [List.dropWhile_cons]
    split
    · refine Nat.le_trans ih ?_
      cases rest with
      | nil => exact Nat.zero_le _
      | cons t rest => simp [joined]
    · exact Nat.le_refl _

/-- The path of a message has all of its names, unless an empty one stands first among several. -/
theorem foldl_pathOf_eq_dotted_iff {keys : List Value} :
    keys.foldl pathOf "" = dotted keys ↔
      ((namesOn keys).head? = some "" → namesOn keys = [""]) := by
  rw [foldl_pathOf, dotted]
  match namesOn keys with
  | [] => simp
  | [s] =>
    by_cases empty : s = ""
    · simp [empty, joined]
    · simp [empty]
  | s :: t :: rest =>
    by_cases empty : s = ""
    · -- The point behind the empty name is lost with it.
      have shorter := length_joined_dropWhile_le "." (·.isEmpty) (t :: rest)
      have whole : joined "." (s :: t :: rest) = "." ++ joined "." (t :: rest) := by
        simp [joined, empty]
      have dropped : (s :: t :: rest).dropWhile (·.isEmpty) =
          (t :: rest).dropWhile (·.isEmpty) := List.dropWhile_cons_of_pos (by simpa using empty)
      refine iff_of_false (fun same => ?_) (by simp [empty])
      rw [dropped, whole] at same
      have lengths := congrArg String.length same
      rw [String.length_append] at lengths
      have point : ".".length = 1 := rfl
      omega
    · simp [empty]

theorem mem_joined_iff {separator : String} {c : Char} (other : c ∉ separator.toList)
    {names : List String} : c ∈ (joined separator names).toList ↔ ∃ s ∈ names, c ∈ s.toList := by
  induction names with
  | nil => simp [joined]
  | cons s rest ih =>
    cases rest with
    | nil => simp [joined]
    | cons t rest => simp [joined, other, ih]

end Report

/-! ## Lines and their parts -/

/-- The lines of a text. The empty text has none. -/
def linesOf (text : String) : List String :=
  if text = "" then [] else (text.toList.splitOn '\n').map String.ofList

/-- The parts of a line before and behind its first tab. -/
def atTab? (line : String) : Option (String × String) :=
  match line.toList.dropWhile (· != '\t') with
  | _ :: behind => some (String.ofList (line.toList.takeWhile (· != '\t')), String.ofList behind)
  | [] => none

theorem atTab?_eq_some_iff {line before behind : String} :
    atTab? line = some (before, behind) ↔
      '\t' ∉ before.toList ∧ line = before ++ "\t" ++ behind := by
  have isTab (c : Char) : (c != '\t') = false ↔ c = '\t' := by simp
  constructor
  · intro found
    unfold atTab? at found
    split at found
    · rename_i c after tail
      cases found
      have tab : c = '\t' := by
        have first := List.head?_dropWhile_not (· != '\t') line.toList
        simpa [tail] using first
      refine ⟨fun member => ?_, String.toList_inj.mp ?_⟩
      · have before := List.mem_takeWhile_imp (String.toList_ofList ▸ member)
        simp at before
      · have whole := List.takeWhile_append_dropWhile (p := (· != '\t')) (l := line.toList)
        rw [tail, tab] at whole
        simpa using whole.symm
    · cases found
  · rintro ⟨absent, rfl⟩
    have inside : ∀ c ∈ before.toList, (c != '\t') = true := by
      intro c member
      rw [bne_iff_ne]
      rintro rfl
      exact absent member
    have whole : (before ++ "\t" ++ behind).toList = before.toList ++ '\t' :: behind.toList := by
      simp
    have tail : (before ++ "\t" ++ behind).toList.dropWhile (· != '\t') =
        '\t' :: behind.toList := by
      rw [whole, List.dropWhile_append_of_pos inside]
      rfl
    have head : (before ++ "\t" ++ behind).toList.takeWhile (· != '\t') = before.toList := by
      rw [whole, List.takeWhile_append_of_pos inside]
      simp
    simp only [atTab?, tail, head, String.ofList_toList]

theorem splitOn_joined (s : String) (rest : List String) :
    (joined "\n" (s :: rest)).toList.splitOn '\n' =
      (s :: rest).flatMap (·.toList.splitOn '\n') := by
  induction rest generalizing s with
  | nil => simp [joined]
  | cons t rest ih =>
    have whole : (joined "\n" (s :: t :: rest)).toList =
        s.toList ++ '\n' :: (joined "\n" (t :: rest)).toList := by
      simp [joined]
    rw [whole, List.splitOn, List.splitOnP_append_cons _ _ rfl]
    exact congrArg _ (ih t)

/-- A line is read back as the lines into which it falls. -/
theorem linesOf_joined {lines : List String} (nonempty : ∀ line ∈ lines, line ≠ "") :
    linesOf (joined "\n" lines) =
      lines.flatMap fun line => (line.toList.splitOn '\n').map String.ofList := by
  cases lines with
  | nil => rfl
  | cons s rest =>
    have filled : joined "\n" (s :: rest) ≠ "" := fun empty =>
      nonempty s (List.mem_cons_self ..) (joined_eq_empty empty s (List.mem_cons_self ..))
    rw [linesOf, if_neg filled, splitOn_joined, List.map_flatMap]

theorem length_splitOn (c : Char) (text : List Char) :
    (text.splitOn c).length = text.count c + 1 := by
  induction text with
  | nil => rfl
  | cons d rest ih =>
    unfold List.splitOn at ih ⊢
    rw [List.splitOnP_cons_eq_if_modifyHead, List.count_cons]
    split
    · rw [List.length_cons, ih]
    · rw [List.length_modifyHead, ih, Nat.add_zero]

theorem splitOn_of_not_mem {c : Char} {text : List Char} (absent : c ∉ text) :
    text.splitOn c = [text] := by
  have alone : ∀ part ∈ [text], c ∉ part := List.forall_mem_singleton.mpr absent
  simpa using List.splitOn_intercalate c alone (List.cons_ne_nil _ _)

theorem length_linesOf_joined {lines : List String} (nonempty : ∀ line ∈ lines, line ≠ "") :
    (linesOf (joined "\n" lines)).length =
      lines.length + (lines.flatMap String.toList).count '\n' := by
  rw [linesOf_joined nonempty]
  clear nonempty
  induction lines with
  | nil => rfl
  | cons s rest ih =>
    rw [List.flatMap_cons, List.length_append, ih, List.length_map, length_splitOn,
      List.length_cons, List.flatMap_cons, List.count_append]
    omega

/-- There are as many lines as were joined exactly if none of them ends inside. -/
theorem length_linesOf_joined_iff {lines : List String} (nonempty : ∀ line ∈ lines, line ≠ "") :
    (linesOf (joined "\n" lines)).length = lines.length ↔
      ∀ line ∈ lines, '\n' ∉ line.toList := by
  have none : (lines.flatMap String.toList).count '\n' = 0 ↔
      ∀ line ∈ lines, '\n' ∉ line.toList := by
    simp [List.count_eq_zero]
  rw [length_linesOf_joined nonempty, ← none]
  omega

theorem linesOf_joined_of_not_mem {lines : List String} (nonempty : ∀ line ∈ lines, line ≠ "")
    (whole : ∀ line ∈ lines, '\n' ∉ line.toList) : linesOf (joined "\n" lines) = lines := by
  rw [linesOf_joined nonempty]
  clear nonempty
  induction lines with
  | nil => rfl
  | cons s rest ih =>
    obtain ⟨first, others⟩ := List.forall_mem_cons.mp whole
    rw [List.flatMap_cons, ih others, splitOn_of_not_mem first]
    simp

/-- Lines are read as what they say exactly if none of them ends inside and all have their parts
around their first tabs. -/
theorem atTab?_linesOf_iff {α : Type} {items : List α} {line : α → String}
    (nonempty : ∀ a, line a ≠ "") {parts : α → String × String} :
    (linesOf (joined "\n" (items.map line))).map atTab? = items.map (fun a => some (parts a)) ↔
      ∀ a ∈ items, '\n' ∉ (line a).toList ∧ atTab? (line a) = some (parts a) := by
  have filled : ∀ l ∈ items.map line, l ≠ "" := by simpa using fun a _ => nonempty a
  constructor
  · intro same
    have whole : ∀ l ∈ items.map line, '\n' ∉ l.toList := by
      have lengths := congrArg List.length same
      exact (length_linesOf_joined_iff filled).mp (by simpa using lengths)
    rw [linesOf_joined_of_not_mem filled whole, List.map_map] at same
    intro a member
    exact ⟨whole _ (List.mem_map_of_mem member), List.map_inj_left.mp same a member⟩
  · intro reads
    have whole : ∀ l ∈ items.map line, '\n' ∉ l.toList := by
      simpa using fun a member => (reads a member).1
    rw [linesOf_joined_of_not_mem filled whole, List.map_map]
    exact List.map_congr_left fun a member => (reads a member).2

/-! ## Messages read back -/

namespace Report

/-- Nothing in a message looks like the end of one of its parts, and an empty name that stands first
stands alone. -/
structure Unbroken (keys : List Value) (text : String) : Prop where
  text : '\n' ∉ text.toList
  names : ∀ s, Value.str s ∈ keys → '\n' ∉ s.toList ∧ '\t' ∉ s.toList
  rooted : (namesOn keys).head? = some "" → namesOn keys = [""]

/-- The line of a message. -/
def lineOf (l : List Value × Value) : String := l.1.foldl pathOf "" ++ "\t" ++ l.2.text

theorem lineOf_ne_empty (l : List Value × Value) : lineOf l ≠ "" := by
  simp [lineOf]

/-- Among names only strings have other characters than digits and signs. -/
theorem forall_namesOn_iff {keys : List Value} (named : AreNames keys) {c : Char}
    (other : c.isDigit = false ∧ c ≠ '-') :
    (∀ s ∈ namesOn keys, c ∉ s.toList) ↔ ∀ s, Value.str s ∈ keys → c ∉ s.toList := by
  constructor
  · intro absent s member
    exact absent s (List.mem_map.mpr ⟨.str s, List.mem_filter.mpr ⟨member, rfl⟩, rfl⟩)
  · intro absent s member
    obtain ⟨key, inside, rfl⟩ := List.mem_map.mp member
    obtain ⟨inside, notNull⟩ := List.mem_filter.mp inside
    rcases Value.eq_of_isName (named key inside) with rfl | ⟨t, rfl⟩ | ⟨n, rfl⟩
    · cases notNull
    · exact absent t inside
    · intro figure
      rcases Int.isDigit_of_mem_repr figure with digit | sign
      · rw [other.1] at digit
        cases digit
      · exact other.2 sign

theorem unbroken_iff {keys : List Value} (named : AreNames keys) {text : String} :
    Unbroken keys text ↔ '\n' ∉ text.toList ∧
      (∀ s ∈ namesOn keys, '\n' ∉ s.toList) ∧ (∀ s ∈ namesOn keys, '\t' ∉ s.toList) ∧
        ((namesOn keys).head? = some "" → namesOn keys = [""]) := by
  rw [forall_namesOn_iff named (by decide), forall_namesOn_iff named (by decide)]
  constructor
  · rintro ⟨text, names, rooted⟩
    exact ⟨text, fun s member => (names s member).1, fun s member => (names s member).2, rooted⟩
  · rintro ⟨text, ends, tabs, rooted⟩
    exact ⟨text, fun s member => ⟨ends s member, tabs s member⟩, rooted⟩

theorem not_mem_dotted_iff {c : Char} (other : c ≠ '.') {keys : List Value} :
    c ∉ (dotted keys).toList ↔ ∀ s ∈ namesOn keys, c ∉ s.toList := by
  rw [dotted, mem_joined_iff (by simpa using other)]
  simp

/-- A message is read back from its line exactly if it is unbroken. -/
theorem lineOf_reads_iff {l : List Value × Value} (named : AreNames l.1) :
    '\n' ∉ (lineOf l).toList ∧ atTab? (lineOf l) = some (dotted l.1, l.2.text) ↔
      Unbroken l.1 l.2.text := by
  have whole : '\n' ∉ (dotted l.1 ++ "\t" ++ l.2.text).toList ↔
      '\n' ∉ l.2.text.toList ∧ '\n' ∉ (dotted l.1).toList := by
    simp [and_comm]
  rw [unbroken_iff named, ← not_mem_dotted_iff (by decide), ← not_mem_dotted_iff (by decide),
    ← foldl_pathOf_eq_dotted_iff, atTab?_eq_some_iff, lineOf, String.append_left_inj,
    String.append_left_inj]
  constructor
  · rintro ⟨noEnd, noTab, same⟩
    rw [same, whole] at noEnd
    exact ⟨noEnd.1, noEnd.2, noTab, same⟩
  · rintro ⟨text, noEnd, noTab, same⟩
    rw [same, whole]
    exact ⟨⟨text, noEnd⟩, noTab, rfl⟩

end Report

namespace CheckResult

/-- The lines of a report, split at their first tabs, are the messages in order, each under all of
its names. -/
def ReadsBack (r : CheckResult) : Prop :=
  (linesOf r.porcelain).map atTab? =
    (Report.leavesOfFields r.messages).map fun l => some (Report.dotted l.1, l.2.text)

instance : DecidablePred ReadsBack := fun _ => inferInstanceAs (Decidable (_ = _))

theorem porcelain_eq_joined (r : CheckResult) :
    r.porcelain = joined "\n" ((Report.leavesOfFields r.messages).map Report.lineOf) := by
  rw [porcelain, lines, Report.flattenFields_eq_map, List.map_map]
  rfl

theorem length_linesOf_porcelain_iff (r : CheckResult) :
    (linesOf r.porcelain).length = (Report.leavesOfFields r.messages).length ↔
      ∀ l ∈ r.lines, '\n' ∉ l.1.toList ∧ '\n' ∉ l.2.toList := by
  have filled : ∀ line ∈ r.lines.map (fun l => l.1 ++ "\t" ++ l.2), line ≠ "" :=
    List.forall_mem_map.mpr fun l _ => by simp
  have count := length_linesOf_joined_iff filled
  rw [List.length_map, r.length_lines, List.forall_mem_map] at count
  refine count.trans (forall₂_congr fun l _ => ?_)
  simp

theorem readsBack_iff {r : CheckResult}
    (named : ∀ l ∈ Report.leavesOfFields r.messages, AreNames l.1) :
    r.ReadsBack ↔
      ∀ l ∈ Report.leavesOfFields r.messages, Report.Unbroken l.1 l.2.text := by
  rw [ReadsBack, porcelain_eq_joined, atTab?_linesOf_iff Report.lineOf_ne_empty]
  exact forall₂_congr fun l member => Report.lineOf_reads_iff (named l member)

end CheckResult

/-! ## Reports of checks -/

namespace Check

variable {w : Workspace} {schemaPath inputPath : Path} {o : CheckOptions} {r : CheckResult}
  {schema : Schema} {x : Value} {v : Verdict}

theorem Ran.areNames_paths (ran : Ran w schemaPath inputPath o schema x v) :
    ∀ l ∈ Report.leavesOfFields v.errors, AreNames l.1 := by
  rw [ran.errors_eq_grouped]
  refine (Document.accounts_grouped ran.shaped).forall_paths (P := fun keys _ => AreNames keys)
    fun f member around isName c below e _ => ?_
  obtain ⟨g, known, rfl⟩ := List.mem_map.mp isName
  have named := (ran.shaped g known).named
  exact List.forall_mem_cons.mpr
    ⟨named, Failure.keyed_of_mem_checks (ran.shaped f member) named below⟩

/-- The messages of a result stand in the places of its errors and tell them. -/
theorem Shows.messages_tell (shows : Shows r v) :
    List.Forall₂ (fun l m => m.1 = l.1 ∧ ∃ s, m.2 = .str s ∧ v.resolver.Tells none l.2 s)
      (Report.leavesOfFields r.errors) (Report.leavesOfFields r.messages) := by
  obtain ⟨doc, told, shown⟩ := shows.messages
  have texts : Report.leavesOfFields r.messages =
      (Report.leavesOfFields doc).map fun l => (l.1, .str l.2) := by
    rw [← List.forall₂_eq_eq_eq, List.forall₂_map_right_iff]
    exact shown.leaves.flip.imp fun m l same => Prod.ext same.1.symm same.2
  rw [texts, shows.errors, List.forall₂_map_right_iff]
  refine (Report.matches_of_traverseFields told).leaves.imp fun l m same => ?_
  exact ⟨same.1.symm, _, rfl, MessageResolver.tells_of_resolve same.2⟩

end Check

/-- **Reports by the line are read back unless something in them looks like an end.** Of every check
that comes to a result the messages stand in the places of the errors and tell them, and the lines
of the report are the messages in order, each under the names of its keys, without the empty ones
that come first. There are as many lines as messages exactly if none of them ends inside a line;
and split at their first tabs the lines are all messages in full, under all names of their keys,
exactly if no message ends a line, no string that is a key ends a line or a path, and no path of
several names begins with an empty one. -/
theorem porcelain_lines {w : Workspace} {elapsed : Double} {schemaPath inputPath : Path}
    {o : CheckOptions} {r : CheckResult}
    (came : (Check.run w elapsed schemaPath inputPath o).collect.1 = .ok r) :
    ∃ schema x v, Check.Ran w schemaPath inputPath o schema x v ∧ Check.Shows r v ∧
      List.Forall₂ (fun l m => m.1 = l.1 ∧ ∃ s, m.2 = .str s ∧ v.resolver.Tells none l.2 s)
        (Report.leavesOfFields r.errors) (Report.leavesOfFields r.messages) ∧
      (∀ l ∈ Report.leavesOfFields r.messages, AreNames l.1) ∧
      r.lines = (Report.leavesOfFields r.messages).map (fun l =>
        (joined "." ((Report.namesOn l.1).dropWhile (·.isEmpty)), l.2.text)) ∧
      ((linesOf r.porcelain).length = (Report.leavesOfFields r.messages).length ↔
        ∀ l ∈ r.lines, '\n' ∉ l.1.toList ∧ '\n' ∉ l.2.toList) ∧
      (r.ReadsBack ↔
        ∀ l ∈ Report.leavesOfFields r.messages, Report.Unbroken l.1 l.2.text) := by
  obtain ⟨schema, x, v, ran, shows⟩ := Check.ran_of_run came
  have tell := shows.messages_tell
  have named : ∀ l ∈ Report.leavesOfFields r.messages, AreNames l.1 := by
    intro m member
    obtain ⟨i, found⟩ := List.getElem?_of_mem member
    obtain ⟨l, error, path, _⟩ := exists_related tell.flip found
    rw [path]
    exact ran.areNames_paths l (shows.errors ▸ List.mem_of_getElem? error)
  have lines : r.lines = (Report.leavesOfFields r.messages).map (fun l =>
      (joined "." ((Report.namesOn l.1).dropWhile (·.isEmpty)), l.2.text)) := by
    simp only [CheckResult.lines, Report.flattenFields_eq_map, Report.foldl_pathOf]
  exact ⟨schema, x, v, ran, shows, tell, named, lines, r.length_linesOf_porcelain_iff,
    CheckResult.readsBack_iff named⟩

/-- The two messages about a broken order are read back. -/
theorem porcelain_lines_orderDesk :
    ∃ r, (Check.run orderDesk (.ofDecimal false 20 0) ⟨.here, ["rules"]⟩ ⟨.here, ["order"]⟩
        {}).collect.1 = .ok r ∧
      r.ReadsBack ∧ (Report.leavesOfFields r.messages).length = 2 := by
  have outcome : (Check.run orderDesk (.ofDecimal false 20 0) ⟨.here, ["rules"]⟩
      ⟨.here, ["order"]⟩ {}).collect.1.toOption.map (fun (r : CheckResult) =>
        (decide (∀ l ∈ Report.leavesOfFields r.messages, '\n' ∉ l.2.text.toList ∧
          (∀ s ∈ Report.namesOn l.1, '\n' ∉ s.toList) ∧
          (∀ s ∈ Report.namesOn l.1, '\t' ∉ s.toList) ∧
          ((Report.namesOn l.1).head? = some "" → Report.namesOn l.1 = [""])),
        (Report.leavesOfFields r.messages).length)) = some (true, 2) := by decide +kernel
  cases came : (Check.run orderDesk (.ofDecimal false 20 0) ⟨.here, ["rules"]⟩
      ⟨.here, ["order"]⟩ {}).collect.1 with
  | error e =>
    rw [came] at outcome
    cases outcome
  | ok r =>
    rw [came] at outcome
    obtain ⟨whole, count⟩ := Prod.mk.inj (Option.some.inj outcome)
    obtain ⟨_, _, _, _, _, _, named, _, _, reads⟩ := porcelain_lines came
    refine ⟨r, rfl, reads.mpr fun l member => ?_, count⟩
    exact (Report.unbroken_iff (named l member)).mpr (of_decide_eq_true whole l member)

/-- A schema file with one rule beside an input. -/
def deskOf (rule : Rule) (input : Value) : Workspace where
  reader := .json
  status p :=
    if p.parts = ["rules"] then
      .file (.document (.map [(.str "version", .int 1), (.str "rules", .list [rule.toNode])]))
    else if p.parts = ["input"] then .file (.document input)
    else .missing

/-- A name inside a field with an empty name is reported as if it stood at the top. -/
theorem emptyName_dropped :
    (Check.run
        (deskOf (.set (.str "") [.val (.str "b") (.ofStandard (.unary .text)) []] true)
          (.map [(.str "", .map [(.str "b", .int 1)])]))
        (.ofDecimal false 20 0) ⟨.here, ["rules"]⟩ ⟨.here, ["input"]⟩ {}).collect.1.toOption.map
      (fun r => (r.porcelain, decide r.ReadsBack,
        (Report.leavesOfFields r.messages).map fun l => (Report.dotted l.1, l.2.text))) =
      some ("b\tmust be a string", false, [(".b", "must be a string")]) := by
  decide +kernel

/-- A message that shows a text of two lines is reported on two lines. -/
theorem message_split :
    (Check.run
        (deskOf (.val (.str "b") (.ofStandard (.binary .equals)) [.str "one\ntwo"])
          (.map [(.str "b", .int 1)]))
        (.ofDecimal false 20 0) ⟨.here, ["rules"]⟩ ⟨.here, ["input"]⟩ {}).collect.1.toOption.map
      (fun r => (linesOf r.porcelain, decide r.ReadsBack,
        (Report.leavesOfFields r.messages).map fun l => (Report.dotted l.1, l.2.text))) =
      some (["b\tmust be equal to one", "two"], false,
        [("b", "must be equal to one\ntwo")]) := by
  decide +kernel

end Rulebook
