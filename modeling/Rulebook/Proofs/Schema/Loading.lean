import Rulebook.Proofs.Check.Agreement
import Rulebook.Proofs.Command.Printing
import Rulebook.Proofs.Compiler.Offences
import Rulebook.Proofs.Message.Layout
import Rulebook.Proofs.Workspace.Reading

/-!
How loading a schema file ends. Main statements:
* `collect_loadSchema`: loading is a chain of checks, whatever is recorded on the way;
* `SchemaFile.checkVersion_eq_ok_iff`, `SchemaFile.ruleNodes_eq_ok_iff`,
  `SchemaFile.exists_applyScope_iff`, `SchemaFile.exists_applyMessages_iff`: what each check accepts;
* `exists_loadSchema_iff`: which files give a schema;
* `breaksOff_iff`: which files break loading off, instead of being refused with a reported error.
-/

namespace Rulebook

open Logged

/-- Whether an error is reported as one of the set-up. The others break the program off. -/
def LoadError.isReported : LoadError → Bool
  | .unread _ | .brokenOff _ | .badRules (.brokenOff _) => false
  | _ => true

/-! ## Outcomes of the steps -/

theorem collect_loadMessages (w : Workspace) (path : Path) :
    (loadMessages w path).collect.1 = (do
      let data ← (w.readDocument path).mapError (.ofRead (.unreadableMessages path))
      (MessageTable.ofLayout data).mapError .badLayout) := by
  unfold loadMessages
  rw [collect_ofExcept_bind]
  refine bind_congr fun data => ?_
  rw [collect_ofExcept_bind]
  cases (MessageTable.ofLayout data).mapError LoadError.badLayout <;> rfl

namespace SchemaFile

/-- The file from which a schema file takes messages. -/
def source? (path : Path) (entries : List (Value × Value)) : Option Path :=
  (field entries "messages").map fun reference => path.parent.join (.ofText reference.text)

theorem collect_applyMessages (w : Workspace) (path : Path) (entries : List (Value × Value))
    (config : Config) :
    (applyMessages w path entries config).collect.1 =
      match source? path entries with
      | none => .ok config
      | some source =>
        match (w source).refusal? with
        | some e => .error (.unread e)
        | none =>
          if w.isFile source then do
            return config.withMessages (← (loadMessages w source).collect.1)
          else .ok config := by
  unfold applyMessages source?
  cases field entries "messages" with
  | none => rfl
  | some reference =>
    simp only [Option.map_some]
    cases (w (path.parent.join (.ofText reference.text))).refusal? with
    | some e => rfl
    | none =>
      cases w.isFile (path.parent.join (.ofText reference.text)) with
      | false => rfl
      | true =>
        simp only [if_true]
        rw [collect_bind fun _ => steady_pure _]
        rfl

end SchemaFile

theorem steady_ofNodes (nodes : Value) (config : Config) :
    Steady (Schema.ofNodes nodes config) := by
  refine Steady.bind ?_ fun _ => steady_pure _
  refine (steady_ofExcept _).bind fun rules => ?_
  exact (steady_write _ _ _).bind fun _ => steady_pure rules

theorem collect_ofNodes (nodes : Value) (config : Config) :
    (Schema.ofNodes nodes config).collect.1 = (do
      return ⟨← (Compiler.ofRegistry config.predicates).compileElements nodes, config⟩) := by
  unfold Schema.ofNodes Compiler.compileLogged
  rw [collect_bind fun _ => steady_pure _, collect_ofExcept_bind]
  cases (Compiler.ofRegistry config.predicates).compileElements nodes <;> rfl

theorem collect_loadSchema (w : Workspace) (path : Path) (config : Config) :
    (loadSchema w path config).collect.1 = (do
      match ← (w.readDocument path).mapError (.ofRead (.unreadableSchema path)) with
      | .map entries =>
        SchemaFile.checkVersion path.name entries
        let nodes ← SchemaFile.ruleNodes path.name entries
        let config ← SchemaFile.applyScope path.name entries config
        let config := SchemaFile.applyLocale entries config
        let config ← (SchemaFile.applyMessages w path entries config).collect.1
        (Schema.ofNodes nodes config).collect.1.mapError .badRules
      | _ => .error (.notMap path.name)) := by
  unfold loadSchema
  rw [collect_ofExcept_bind]
  refine bind_congr fun data => ?_
  cases data with
  | map entries =>
    have finish (nodes : Value) (config : Config) : Steady (do
        let schema ← mapError LoadError.badRules (Schema.ofNodes nodes config)
        write .debug .schema
          ("Loaded schema " ++ path.text ++ " with " ++ toString schema.rules.length ++ " rules")
        return schema) :=
      ((steady_ofNodes nodes config).mapError _).bind fun schema =>
        (steady_write _ _ _).bind fun _ => steady_pure schema
    simp only [collect_ofExcept_bind]
    refine bind_congr fun _ => bind_congr fun nodes => bind_congr fun config => ?_
    rw [collect_bind (finish nodes)]
    refine bind_congr fun config => ?_
    rw [collect_bind fun schema => (steady_write _ _ _).bind fun _ => steady_pure schema,
      collect_mapError]
    cases (Schema.ofNodes nodes config).collect.1.mapError LoadError.badRules <;> rfl
  | _ => rfl

/-! ## What a file must hold -/

/-- Whether a value can be looked up in a set. Every set can. -/
def Value.isSeekable : Value → Bool
  | .set _ _ => true
  | v => v.isKey

theorem Value.inSet_eq (x : Value) (members : List Value) :
    x.inSet members =
      if x.isSeekable then .ok (members.any x.sameKey) else .error .unsupported := by
  cases x <;> rfl

theorem supportedVersions_eq : supportedVersions = .set .frozen [.int 1] := by
  simp [supportedVersions, Value.ofMembers, Value.allIntegers]

theorem Value.sameKey_one (v : Value) : v.sameKey (.int 1) = isYes (v.equal (.int 1)) := by
  have notSame : v.sameOccurrence (.int 1) = false := by
    unfold sameOccurrence
    split
    · unfold Atom.sameOccurrence
      split <;> simp_all
    · rfl
  unfold sameKey same
  rw [notSame]
  split
  · simp_all
  · simp

/-- What equals one can be looked up: the numbers that refuse comparison equal nothing. -/
theorem Value.isSeekable_of_equal_one {v : Value} (one : v.equal (.int 1) = .ok true) :
    v.isSeekable = true := by
  cases v with
  | seq kind items => cases kind <;> simp [equal] at one
  | set => rfl
  | map => simp [equal] at one
  | atom a =>
    cases a with
    | decimal d =>
      cases d with
      | nan negative signaling payload mark =>
        cases signaling with
        | false => rfl
        | true => cases one
      | _ => rfl
    | _ => rfl

namespace SchemaFile

variable {file : String} {entries : List (Value × Value)} {config : Config}

/-- A value other than null stands in a place of a file. -/
def Has (entries : List (Value × Value)) (name : String) (v : Value) : Prop :=
  Value.lookup (.str name) entries = some v ∧ v ≠ .null

theorem field_eq_some_iff {name : String} {v : Value} :
    field entries name = some v ↔ Has entries name v := by
  unfold field Has
  rw [Option.filter_eq_some_iff]
  refine and_congr_right fun _ => ?_
  cases v with
  | atom a => cases a <;> simp [Value.isNull]
  | _ => simp [Value.isNull]

/-- The version of a file is a number that equals one. -/
def HasVersion (entries : List (Value × Value)) : Prop :=
  ∃ v, Has entries "version" v ∧ v.equal (.int 1) = .ok true

/-- The scope of a file, if it has one, is a text with a character that is not blank. -/
def HasScope (entries : List (Value × Value)) : Prop :=
  ∀ v, Has entries "namespace" v → ∃ s, v = .str s ∧ ∃ c ∈ s.toList, Text.isBlank c.toNat = false

theorem isIn_supportedVersions (v : Value) :
    v.isIn supportedVersions =
      if v.isSeekable then .ok (Value.isYes (v.equal (.int 1))) else .error .unsupported := by
  rw [supportedVersions_eq, Value.isIn, Value.inSet_eq, List.any_cons, List.any_nil, Bool.or_false,
    Value.sameKey_one]

theorem isYes_iff {o : Except Fault Bool} : Value.isYes o = true ↔ o = .ok true := by
  cases o with
  | ok b => simp [Value.isYes]
  | error f => simp [Value.isYes]

theorem checkVersion_eq_ok_iff (file : String) :
    checkVersion file entries = .ok () ↔ HasVersion entries := by
  unfold checkVersion HasVersion
  simp only [← field_eq_some_iff]
  cases field entries "version" with
  | none => simp
  | some v =>
    simp only [Option.some.injEq, exists_eq_left', isIn_supportedVersions]
    by_cases one : v.equal (.int 1) = .ok true
    · simp [Value.isSeekable_of_equal_one one, one, Value.isYes]
    · have no : Value.isYes (v.equal (.int 1)) = false := by
        rw [Bool.eq_false_iff]
        exact fun yes => one (isYes_iff.mp yes)
      cases v.isSeekable <;> simp [no, one]

/-- Only a version that cannot be looked up breaks the check off. -/
theorem checkVersion_eq_error_iff (file : String) {e : LoadError} :
    checkVersion file entries = .error e ∧ e.isReported = false ↔
      e = .brokenOff .unsupported ∧ ∃ v, Has entries "version" v ∧ v.isSeekable = false := by
  simp only [← field_eq_some_iff]
  unfold checkVersion
  cases field entries "version" with
  | none =>
    refine iff_of_false ?_ (by simp)
    rintro ⟨refused, unreported⟩
    cases refused
    cases unreported
  | some v =>
    simp only [Option.some.injEq, exists_eq_left', isIn_supportedVersions]
    cases v.isSeekable with
    | false =>
      constructor
      · rintro ⟨refused, _⟩
        cases refused
        exact ⟨rfl, rfl⟩
      · rintro ⟨rfl, _⟩
        exact ⟨rfl, rfl⟩
    | true =>
      refine iff_of_false ?_ (by simp)
      simp only [if_true]
      cases Value.isYes (v.equal (.int 1)) with
      | true => rintro ⟨⟨⟩, _⟩
      | false =>
        rintro ⟨refused, unreported⟩
        cases refused
        cases unreported

theorem ruleNodes_eq_ok_iff (file : String) {v : Value} :
    ruleNodes file entries = .ok v ↔
      ∃ nodes, v = .list nodes ∧ Has entries "rules" (.list nodes) := by
  simp only [← field_eq_some_iff]
  unfold ruleNodes
  split
  · rename_i nodes found
    simp [found, eq_comm]
  · rename_i other
    refine iff_of_false nofun ?_
    rintro ⟨nodes, _, found⟩
    exact other nodes found

theorem isReported_of_ruleNodes {e : LoadError} (refused : ruleNodes file entries = .error e) :
    e.isReported = true := by
  unfold ruleNodes at refused
  split at refused <;> cases refused
  rfl

theorem isBlankText_eq_false_iff {s : String} :
    Text.isBlankText s = false ↔ ∃ c ∈ s.toList, Text.isBlank c.toNat = false := by
  simp [Text.isBlankText]

theorem exists_applyScope_iff (file : String) (config : Config) :
    (∃ own, applyScope file entries config = .ok own) ↔ HasScope entries := by
  unfold applyScope HasScope
  simp only [← field_eq_some_iff]
  split
  · rename_i missing
    exact iff_of_true ⟨_, rfl⟩ (by simp [missing])
  · rename_i s found
    have one : (∀ v, field entries "namespace" = some v →
        ∃ s, v = .str s ∧ ∃ c ∈ s.toList, Text.isBlank c.toNat = false) ↔
          ∃ c ∈ s.toList, Text.isBlank c.toNat = false := by
      simp [found]
    rw [one, ← isBlankText_eq_false_iff]
    cases Text.isBlankText s <;> simp
  · rename_i v notText found
    refine iff_of_false nofun fun hasScope => ?_
    obtain ⟨s, rfl, _⟩ := hasScope v found
    exact notText s rfl

theorem isReported_of_applyScope {e : LoadError}
    (refused : applyScope file entries config = .error e) : e.isReported = true := by
  unfold applyScope at refused
  split at refused
  · cases refused
  · split at refused <;> cases refused
    rfl
  · cases refused
    rfl

end SchemaFile

/-! ## Files that break loading off -/

section

variable {w : Workspace} {path : Path}

/-- An error of reading breaks loading off exactly if it is not reported. -/
theorem mapError_readDocument_iff (reported : LoadError) {e : LoadError}
    (isReported : reported.isReported = true) :
    (w.readDocument path).mapError (.ofRead reported) = .error e ∧ e.isReported = false ↔
      ∃ r, Unreadable w path r ∧ e = .unread r := by
  simp only [← readDocument_eq_error_iff]
  cases w.readDocument path with
  | ok v => exact iff_of_false nofun nofun
  | error r =>
    cases known : r.isReported with
    | true =>
      have kept : LoadError.ofRead reported r = reported := if_pos known
      refine iff_of_false ?_ ?_
      · rintro ⟨same, unreported⟩
        cases same
        rw [kept, isReported] at unreported
        cases unreported
      · rintro ⟨r', ⟨same, unreported⟩, _⟩
        cases same
        rw [known] at unreported
        cases unreported
    | false =>
      have broken : LoadError.ofRead reported r = .unread r := if_neg (by simp [known])
      constructor
      · rintro ⟨same, _⟩
        cases same
        exact ⟨r, ⟨rfl, known⟩, broken⟩
      · rintro ⟨r', ⟨same, _⟩, rfl⟩
        cases same
        exact ⟨congrArg _ broken, rfl⟩

end

/-! ## Message files -/

section

variable {w : Workspace} {path : Path}

theorem exists_loadMessages_iff :
    (∃ t, (loadMessages w path).collect.1 = .ok t) ↔
      ∃ data, w.Holds path data ∧ Layout.IsLayout data := by
  rw [collect_loadMessages]
  simp only [bind_eq_ok_iff, mapError_eq_ok_iff, readDocument_eq_ok_iff]
  constructor
  · rintro ⟨t, data, read, made⟩
    exact ⟨data, read, (Layout.exists_ofLayout_iff data).mp ⟨t, made⟩⟩
  · rintro ⟨data, read, isLayout⟩
    obtain ⟨t, made⟩ := (Layout.exists_ofLayout_iff data).mpr isLayout
    exact ⟨t, data, read, made⟩

theorem unreadable_of_loadMessages_iff {e : LoadError} :
    (loadMessages w path).collect.1 = .error e ∧ e.isReported = false ↔
      ∃ r, Unreadable w path r ∧ e = .unread r := by
  rw [collect_loadMessages]
  rw [← mapError_readDocument_iff (.unreadableMessages path) rfl, bind_eq_error_iff]
  constructor
  · rintro ⟨refused | ⟨data, _, refused⟩, unreported⟩
    · exact ⟨refused, unreported⟩
    · cases made : MessageTable.ofLayout data with
      | ok t =>
        rw [made] at refused
        cases refused
      | error layout =>
        rw [made] at refused
        cases refused
        cases unreported
  · rintro ⟨refused, unreported⟩
    exact ⟨.inl refused, unreported⟩

end

namespace SchemaFile

/-- A file refers to messages in a file, whose path is seen from its own directory. -/
def Refers (path : Path) (entries : List (Value × Value)) (source : Path) : Prop :=
  ∃ reference, Has entries "messages" reference ∧
    source = path.parent.join (.ofText reference.text)

theorem source?_eq_some_iff {path source : Path} {entries : List (Value × Value)} :
    source? path entries = some source ↔ Refers path entries source := by
  unfold source? Refers
  rw [Option.map_eq_some_iff]
  simp only [field_eq_some_iff]
  exact exists_congr fun _ => and_congr_right fun _ => eq_comm

/-- A path cannot be looked up: it is too long, or it leads through a directory that may not be
searched. -/
inductive CannotLookUp (w : Workspace) (source : Path) : ReadError → Prop where
  | tooLong (there : w source = .tooLong) : CannotLookUp w source .tooLong
  | forbidden (there : w source = .unsearchable) : CannotLookUp w source .forbidden

theorem refusal?_eq_some_iff_cannotLookUp {w : Workspace} {source : Path} {r : ReadError} :
    (w source).refusal? = some r ↔ CannotLookUp w source r := by
  constructor
  · intro refused
    cases there : w source <;> rw [there] at refused <;> cases refused
    · exact .tooLong there
    · exact .forbidden there
  · rintro (there | there) <;> rw [there] <;> rfl

/-- The messages that a file refers to: none, a file that is not there, or one with messages. -/
def HasMessages (w : Workspace) (path : Path) (entries : List (Value × Value)) : Prop :=
  ∀ source, Refers path entries source → (∀ r, ¬CannotLookUp w source r) ∧
    (w.HasFile source → ∃ data, w.Holds source data ∧ Layout.IsLayout data)

/-- The reference of a file to messages breaks loading off: it cannot be looked up, or the file there
cannot be read. -/
inductive MessagesBreakOff (w : Workspace) (path : Path) (entries : List (Value × Value)) :
    ReadError → Prop where
  | lookup {source : Path} {r : ReadError} (referred : Refers path entries source)
      (fails : CannotLookUp w source r) : MessagesBreakOff w path entries r
  | unreadable {source : Path} {r : ReadError} (referred : Refers path entries source)
      (hasFile : w.HasFile source) (unreadable : Unreadable w source r) :
      MessagesBreakOff w path entries r

variable {w : Workspace} {path : Path} {entries : List (Value × Value)} {config : Config}

/-- Where nothing is referred to, nothing is loaded. -/
theorem collect_applyMessages_of_unreferred (unreferred : source? path entries = none)
    (config : Config) : (applyMessages w path entries config).collect.1 = .ok config := by
  rw [collect_applyMessages, unreferred]

theorem collect_applyMessages_of_cannotLookUp {source : Path} {r : ReadError}
    (referred : source? path entries = some source) (fails : CannotLookUp w source r)
    (config : Config) :
    (applyMessages w path entries config).collect.1 = .error (.unread r) := by
  rw [collect_applyMessages, referred]
  simp only [refusal?_eq_some_iff_cannotLookUp.mpr fails]

theorem collect_applyMessages_of_lookedUp {source : Path}
    (referred : source? path entries = some source) (lookedUp : ∀ r, ¬CannotLookUp w source r)
    (config : Config) :
    (applyMessages w path entries config).collect.1 =
      if w.isFile source then do
        return config.withMessages (← (loadMessages w source).collect.1)
      else .ok config := by
  have found : (w source).refusal? = none := by
    rw [Option.eq_none_iff_forall_ne_some]
    exact fun r refused => lookedUp r (refusal?_eq_some_iff_cannotLookUp.mp refused)
  rw [collect_applyMessages, referred]
  simp only [found]

theorem exists_applyMessages_iff (config : Config) :
    (∃ own, (applyMessages w path entries config).collect.1 = .ok own) ↔
      HasMessages w path entries := by
  unfold HasMessages
  simp only [← source?_eq_some_iff, ← isFile_iff]
  cases referred : source? path entries with
  | none =>
    rw [collect_applyMessages_of_unreferred referred]
    exact iff_of_true ⟨_, rfl⟩ nofun
  | some source =>
    simp only [Option.some.injEq, forall_eq']
    by_cases fails : ∃ r, CannotLookUp w source r
    · obtain ⟨r, fails⟩ := fails
      rw [collect_applyMessages_of_cannotLookUp referred fails]
      exact iff_of_false nofun fun hasMessages => hasMessages.1 r fails
    · have lookedUp := not_exists.mp fails
      rw [collect_applyMessages_of_lookedUp referred lookedUp]
      cases w.isFile source with
      | false => simp [lookedUp]
      | true =>
        simp only [if_true, bind_eq_ok_iff, ← exists_loadMessages_iff, forall_const]
        constructor
        · rintro ⟨own, t, loaded, _⟩
          exact ⟨lookedUp, t, loaded⟩
        · rintro ⟨_, t, loaded⟩
          exact ⟨_, t, loaded, rfl⟩

theorem messagesBreakOff_of_source {source : Path} (referred : source? path entries = some source)
    {r : ReadError} : MessagesBreakOff w path entries r ↔
      CannotLookUp w source r ∨ w.isFile source = true ∧ Unreadable w source r := by
  have here {other : Path} (refers : Refers path entries other) : other = source := by
    rw [← source?_eq_some_iff, referred] at refers
    exact (Option.some.inj refers).symm
  constructor
  · rintro (⟨refers, fails⟩ | ⟨refers, hasFile, unreadable⟩)
    · exact .inl (here refers ▸ fails)
    · cases here refers
      exact .inr ⟨isFile_iff.mpr hasFile, unreadable⟩
  · rintro (fails | ⟨isFile, unreadable⟩)
    · exact .lookup (source?_eq_some_iff.mp referred) fails
    · exact .unreadable (source?_eq_some_iff.mp referred) (isFile_iff.mp isFile) unreadable

theorem isFile_of_cannotLookUp {source : Path} {r : ReadError}
    (fails : CannotLookUp w source r) : w.isFile source = false := by
  cases fails with
  | tooLong there | forbidden there => rw [Workspace.isFile, there]

theorem messagesBreakOff_iff (config : Config) {e : LoadError} :
    (applyMessages w path entries config).collect.1 = .error e ∧ e.isReported = false ↔
      ∃ r, MessagesBreakOff w path entries r ∧ e = .unread r := by
  cases referred : source? path entries with
  | none =>
    rw [collect_applyMessages_of_unreferred referred]
    refine iff_of_false nofun ?_
    rintro ⟨r, ⟨refers, _⟩ | ⟨refers, _⟩, _⟩ <;>
      · rw [← source?_eq_some_iff, referred] at refers
        cases refers
  | some source =>
    simp only [messagesBreakOff_of_source referred]
    by_cases fails : ∃ r, CannotLookUp w source r
    · obtain ⟨r, fails⟩ := fails
      have same {r' : ReadError} (other : CannotLookUp w source r') : r' = r := by
        rw [← refusal?_eq_some_iff_cannotLookUp] at other fails
        rw [fails] at other
        exact (Option.some.inj other).symm
      rw [collect_applyMessages_of_cannotLookUp referred fails]
      constructor
      · rintro ⟨refused, _⟩
        cases refused
        exact ⟨r, .inl fails, rfl⟩
      · rintro ⟨r', other | ⟨isFile, _⟩, rfl⟩
        · exact ⟨by rw [same other], rfl⟩
        · rw [isFile_of_cannotLookUp fails] at isFile
          cases isFile
    · have lookedUp := not_exists.mp fails
      rw [collect_applyMessages_of_lookedUp referred lookedUp]
      simp only [lookedUp, false_or]
      cases w.isFile source with
      | false => simp
      | true =>
        have refused : (do
            return config.withMessages (← (loadMessages w source).collect.1)) = .error e ↔
              (loadMessages w source).collect.1 = .error e := by
          rw [← refusal?_eq_some_iff, refusal?_bind_pure, refusal?_eq_some_iff]
        simp only [if_true, true_and, refused, unreadable_of_loadMessages_iff]

theorem predicates_of_collect_applyMessages {own : Config}
    (applied : (applyMessages w path entries config).collect.1 = .ok own) :
    own.predicates = config.predicates :=
  predicates_of_applyMessages ⟨[], applied⟩

end SchemaFile

/-! ## Schema files -/

theorem Compiler.compileElements_list (c : Compiler) (nodes : List Value) :
    c.compileElements (.list nodes) = c.compileAll nodes := rfl

theorem exists_compileAll_iff {c : Compiler} {nodes : List Value} :
    (∃ rules, c.compileAll nodes = .ok rules) ↔
      ∀ node ∈ nodes, ∃ rule, c.compile node = .ok rule := by
  induction nodes with
  | nil => exact iff_of_true ⟨[], rfl⟩ nofun
  | cons node rest ih =>
    rw [List.forall_mem_cons, ← ih]
    simp only [Compiler.compileAll, bind_eq_ok_iff]
    constructor
    · rintro ⟨_, rule, first, rules, later, _⟩
      exact ⟨⟨rule, first⟩, rules, later⟩
    · rintro ⟨⟨rule, first⟩, rules, later⟩
      exact ⟨_, rule, first, rules, later, rfl⟩

/-- Compiling breaks loading off exactly if the check of a regular expression is the first offence. -/
theorem compileAll_breaksOff_iff {c : Compiler} {nodes : List Value} {e : LoadError} :
    (c.compileAll nodes).mapError .badRules = .error e ∧ e.isReported = false ↔
      ∃ f, (c.offencesOfAll nodes).head? = some (.brokenOff f) ∧ e = .badRules (.brokenOff f) := by
  rw [← Compiler.refusal?_compileAll]
  cases c.compileAll nodes with
  | ok rules => exact iff_of_false nofun nofun
  | error offence =>
    constructor
    · rintro ⟨same, unreported⟩
      cases same
      cases offence with
      | brokenOff f => exact ⟨f, rfl, rfl⟩
      | _ => cases unreported
    · rintro ⟨f, same, rfl⟩
      cases same
      exact ⟨rfl, rfl⟩

section

variable {w : Workspace} {path : Path} {config : Config}

/-- A schema file holds a map with a version that is understood, a list of rules, and no scope or
one that is not blank. -/
structure SchemaFile.Opens (w : Workspace) (path : Path) (entries : List (Value × Value))
    (nodes : List Value) : Prop where
  read : w.Holds path (.map entries)
  version : SchemaFile.HasVersion entries
  rules : SchemaFile.Has entries "rules" (.list nodes)
  scope : SchemaFile.HasScope entries

/-- The version of a file cannot be looked up. -/
def SchemaFile.VersionBreaksOff (w : Workspace) (path : Path) : Prop :=
  ∃ entries v, w.Holds path (.map entries) ∧ SchemaFile.Has entries "version" v ∧
    v.isSeekable = false

/-- Of an opened file the messages and the rules are left. -/
theorem outcome_of_opens {entries : List (Value × Value)} {nodes : List Value}
    (opens : SchemaFile.Opens w path entries nodes) (config : Config) :
    ∃ own : Config, (loadSchema w path config).collect.1 = (do
      let full ← (SchemaFile.applyMessages w path entries own).collect.1
      let rules ← ((Compiler.ofRegistry config.predicates).compileAll nodes).mapError .badRules
      return ⟨rules, full⟩) := by
  obtain ⟨own, applied⟩ := (SchemaFile.exists_applyScope_iff path.name config).mpr opens.scope
  have version := (SchemaFile.checkVersion_eq_ok_iff path.name).mpr opens.version
  have listed := (SchemaFile.ruleNodes_eq_ok_iff path.name).mpr ⟨_, rfl, opens.rules⟩
  have compiled (full : Config) :
      (Schema.ofNodes (.list nodes) full).collect.1.mapError LoadError.badRules = (do
        let rules ← ((Compiler.ofRegistry full.predicates).compileAll nodes).mapError .badRules
        return ⟨rules, full⟩) := by
    rw [collect_ofNodes, Compiler.compileElements_list]
    cases (Compiler.ofRegistry full.predicates).compileAll nodes <;> rfl
  refine ⟨SchemaFile.applyLocale entries own, ?_⟩
  rw [collect_loadSchema, readDocument_eq_ok_iff.mpr opens.read]
  simp only [mapError_ok, ok_bind, version, listed, applied, compiled]
  -- Neither the file nor its messages change the predicates.
  cases messages : (SchemaFile.applyMessages w path entries
    (SchemaFile.applyLocale entries own)).collect.1 with
  | error e => rfl
  | ok full =>
    have kept : full.predicates = config.predicates := by
      rw [SchemaFile.predicates_of_collect_applyMessages messages,
        SchemaFile.predicates_applyLocale, SchemaFile.predicates_of_applyScope applied]
    simp only [ok_bind, kept]

/-- A file cannot be opened for an error that is reported, unless it cannot be read as text or its
version cannot be looked up. -/
theorem opens_or_refused (w : Workspace) (path : Path) (config : Config) :
    (∃ entries nodes, SchemaFile.Opens w path entries nodes) ∨
      ∃ e, (loadSchema w path config).collect.1 = .error e ∧
        (e.isReported = true ∨ (∃ r, Unreadable w path r ∧ e = .unread r) ∨
          e = .brokenOff .unsupported ∧ SchemaFile.VersionBreaksOff w path) := by
  rw [collect_loadSchema]
  cases read : (w.readDocument path).mapError (LoadError.ofRead (.unreadableSchema path)) with
  | error e =>
    refine .inr ⟨e, rfl, ?_⟩
    cases known : e.isReported with
    | true => exact .inl rfl
    | false => exact .inr (.inl ((mapError_readDocument_iff _ rfl).mp ⟨read, known⟩))
  | ok data =>
    rw [mapError_eq_ok_iff, readDocument_eq_ok_iff] at read
    cases data with
    | map entries =>
      simp only [ok_bind]
      cases version : SchemaFile.checkVersion path.name entries with
      | error e =>
        refine .inr ⟨e, rfl, ?_⟩
        cases known : e.isReported with
        | true => exact .inl rfl
        | false =>
          obtain ⟨broken, v, found, unseekable⟩ :=
            (SchemaFile.checkVersion_eq_error_iff _).mp ⟨version, known⟩
          exact .inr (.inr ⟨broken, entries, v, read, found, unseekable⟩)
      | ok _ =>
        simp only [ok_bind]
        cases listed : SchemaFile.ruleNodes path.name entries with
        | error e => exact .inr ⟨e, rfl, .inl (SchemaFile.isReported_of_ruleNodes listed)⟩
        | ok v =>
          simp only [ok_bind]
          cases applied : SchemaFile.applyScope path.name entries config with
          | error e => exact .inr ⟨e, rfl, .inl (SchemaFile.isReported_of_applyScope applied)⟩
          | ok own =>
            obtain ⟨nodes, _, found⟩ := (SchemaFile.ruleNodes_eq_ok_iff _).mp listed
            exact .inl ⟨entries, nodes, read, (SchemaFile.checkVersion_eq_ok_iff _).mp version, found,
              (SchemaFile.exists_applyScope_iff _ _).mp ⟨own, applied⟩⟩
    | _ => exact .inr ⟨_, rfl, .inl rfl⟩

theorem exists_loadSchema_iff :
    (∃ schema, (loadSchema w path config).collect.1 = .ok schema) ↔
      ∃ entries nodes, SchemaFile.Opens w path entries nodes ∧
        SchemaFile.HasMessages w path entries ∧
        ∀ node ∈ nodes, ∃ rule,
          (Compiler.ofRegistry config.predicates).compile node = .ok rule := by
  constructor
  · rintro ⟨schema, loaded⟩
    rcases opens_or_refused w path config with ⟨entries, nodes, opens⟩ | ⟨e, refused, _⟩
    · obtain ⟨own, outcome⟩ := outcome_of_opens opens config
      rw [outcome] at loaded
      obtain ⟨full, applied, loaded⟩ := bind_eq_ok_iff.mp loaded
      obtain ⟨rules, compiled, _⟩ := bind_eq_ok_iff.mp loaded
      exact ⟨entries, nodes, opens, (SchemaFile.exists_applyMessages_iff _).mp ⟨full, applied⟩,
        exists_compileAll_iff.mp ⟨rules, mapError_eq_ok_iff.mp compiled⟩⟩
    · rw [refused] at loaded
      cases loaded
  · rintro ⟨entries, nodes, opens, hasMessages, accepted⟩
    obtain ⟨own, outcome⟩ := outcome_of_opens opens config
    obtain ⟨full, applied⟩ := (SchemaFile.exists_applyMessages_iff own).mpr hasMessages
    obtain ⟨rules, compiled⟩ := exists_compileAll_iff.mpr accepted
    rw [outcome, applied, ok_bind, compiled]
    exact ⟨_, rfl⟩

/-- How loading a schema file is broken off: the file cannot be read, its version cannot be looked
up, its messages break loading off, or the first offence of its rules is a regular
expression whose check breaks off. -/
inductive SchemaFile.BreaksOff (w : Workspace) (path : Path) (config : Config) :
    LoadError → Prop where
  | unreadable {r : ReadError} (unreadable : Unreadable w path r) :
      BreaksOff w path config (.unread r)
  | version (unseekable : SchemaFile.VersionBreaksOff w path) :
      BreaksOff w path config (.brokenOff .unsupported)
  | messages {entries : List (Value × Value)} {nodes : List Value} {r : ReadError}
      (opens : SchemaFile.Opens w path entries nodes)
      (breakOff : SchemaFile.MessagesBreakOff w path entries r) :
      BreaksOff w path config (.unread r)
  | pattern {entries : List (Value × Value)} {nodes : List Value} {f : Fault}
      (opens : SchemaFile.Opens w path entries nodes)
      (hasMessages : SchemaFile.HasMessages w path entries)
      (first : ((Compiler.ofRegistry config.predicates).offencesOfAll nodes).head? =
        some (.brokenOff f)) : BreaksOff w path config (.badRules (.brokenOff f))

theorem breaksOff_of_refused {e : LoadError}
    (refused : (loadSchema w path config).collect.1 = .error e)
    (unreported : e.isReported = false) : SchemaFile.BreaksOff w path config e := by
  rcases opens_or_refused w path config with ⟨entries, nodes, opens⟩ | ⟨e', refused', known⟩
  · obtain ⟨own, outcome⟩ := outcome_of_opens opens config
    rw [outcome] at refused
    rcases bind_eq_error_iff.mp refused with refused | ⟨full, applied, refused⟩
    · obtain ⟨r, breakOff, rfl⟩ := (SchemaFile.messagesBreakOff_iff _).mp ⟨refused, unreported⟩
      exact .messages opens breakOff
    · have hasMessages := (SchemaFile.exists_applyMessages_iff _).mp ⟨full, applied⟩
      rcases bind_eq_error_iff.mp refused with refused | ⟨_, _, ⟨⟩⟩
      obtain ⟨f, first, rfl⟩ := compileAll_breaksOff_iff.mp ⟨refused, unreported⟩
      exact .pattern opens hasMessages first
  · rw [refused] at refused'
    cases refused'
    rcases known with known | ⟨r, unreadable, rfl⟩ | ⟨rfl, unseekable⟩
    · rw [known] at unreported
      cases unreported
    · exact .unreadable unreadable
    · exact .version unseekable

theorem refused_of_breaksOff {e : LoadError} (breaksOff : SchemaFile.BreaksOff w path config e) :
    (loadSchema w path config).collect.1 = .error e ∧ e.isReported = false := by
  cases breaksOff with
  | unreadable unreadable =>
    obtain ⟨refused, unreported⟩ :=
      (mapError_readDocument_iff (.unreadableSchema path) rfl).mpr ⟨_, unreadable, rfl⟩
    rw [collect_loadSchema, refused]
    exact ⟨rfl, unreported⟩
  | version unseekable =>
    obtain ⟨entries, v, read, found, unseekable⟩ := unseekable
    obtain ⟨refused, unreported⟩ :=
      (SchemaFile.checkVersion_eq_error_iff path.name).mpr ⟨rfl, v, found, unseekable⟩
    rw [collect_loadSchema, readDocument_eq_ok_iff.mpr read, mapError_ok, ok_bind]
    simp only [refused]
    exact ⟨rfl, unreported⟩
  | messages opens breakOff =>
    obtain ⟨own, outcome⟩ := outcome_of_opens opens config
    obtain ⟨refused, unreported⟩ :=
      (SchemaFile.messagesBreakOff_iff own).mpr ⟨_, breakOff, rfl⟩
    rw [outcome, refused]
    exact ⟨rfl, unreported⟩
  | pattern opens hasMessages first =>
    obtain ⟨own, outcome⟩ := outcome_of_opens opens config
    obtain ⟨full, applied⟩ := (SchemaFile.exists_applyMessages_iff own).mpr hasMessages
    obtain ⟨refused, unreported⟩ := compileAll_breaksOff_iff.mpr ⟨_, first, rfl⟩
    rw [outcome, applied, ok_bind, refused]
    exact ⟨rfl, unreported⟩

theorem breaksOff_iff {e : LoadError} :
    (loadSchema w path config).collect.1 = .error e ∧ e.isReported = false ↔
      SchemaFile.BreaksOff w path config e :=
  ⟨fun ⟨refused, unreported⟩ => breaksOff_of_refused refused unreported, refused_of_breaksOff⟩

end

end Rulebook
