import Rulebook.Proofs.Check.Agreement
import Rulebook.Proofs.Json.Image

/-!
The rules of a schema file as the program prints them. Main statements:
* `ast_of_asks`: the rules of a file that can be loaded are printed as nodes;
* `printed_rules_reread`: if the arguments of their predicates are values that JSON can hold, what
  is printed stands for the same rules;
* `inJson_of_reread`: no document stands for rules with other arguments;
* `printed_date_reread`: so a date is printed as a string, and stands for another rule.
-/

namespace Rulebook

namespace Rule

mutual

/-- The arguments of all predicates in a rule. -/
def arguments : Rule → List Value
  | .key _ _ arguments | .val _ _ arguments => arguments
  | .each _ rule => rule.arguments
  | .set _ rules _ => allArguments rules
  | .both _ left right => left.arguments ++ right.arguments

def allArguments : List Rule → List Value
  | [] => []
  | rule :: rest => rule.arguments ++ allArguments rest

end

end Rule

/-! ## The nodes of rules -/

theorem Value.isJson_of_isName {v : Value} (named : v.isName true = true) : v.IsJson := by
  rcases eq_of_isName named with rfl | ⟨s, rfl⟩ | ⟨n, rfl⟩
  · exact .null
  · exact .str s
  · exact .int n

theorem isJson_nodeOf (tag : Tag) {payload : List Value} (all : ∀ v ∈ payload, v.IsJson) :
    (nodeOf tag payload).IsJson :=
  .list (List.forall_mem_cons.mpr ⟨.str tag.text, List.forall_mem_singleton.mpr (.list all)⟩)

theorem isJson_pairNode (tag : Tag) {first second : Value} (left : first.IsJson)
    (right : second.IsJson) : (nodeOf tag [first, second]).IsJson :=
  isJson_nodeOf tag (List.forall_mem_cons.mpr ⟨left, List.forall_mem_singleton.mpr right⟩)

theorem Predicate.isJson_toNode (p : Predicate) {arguments : List Value}
    (json : ∀ v ∈ arguments, v.thaw.IsJson) : (p.toNode arguments).IsJson := by
  refine isJson_pairNode .predicate (.str p.id) (.list ?_)
  rw [Value.thawAll_eq_map]
  exact List.forall_mem_map.mpr json

namespace Rule

variable {c : Compiler}

mutual

/-- The node of a rule holds nothing but names, marks and arguments. -/
theorem isJson_toNode {rule : Rule} (formed : rule.WellFormed c)
    (json : ∀ v ∈ rule.arguments, v.thaw.IsJson) : rule.toNode.IsJson := by
  cases rule with
  | key name p arguments =>
    have named := Value.isName_of_isName_false formed.1
    exact isJson_pairNode .key (Value.isJson_of_isName named) (p.isJson_toNode json)
  | val name p arguments =>
    exact isJson_pairNode .val (Value.isJson_of_isName formed.1) (p.isJson_toNode json)
  | each name rule =>
    have inner := isJson_toNode formed.2 json
    unfold toNode
    split
    · exact isJson_nodeOf .each (List.forall_mem_singleton.mpr inner)
    · exact isJson_pairNode .each (Value.isJson_of_isName formed.1) inner
  | set name rules single =>
    obtain ⟨named, _, one, all⟩ := formed
    cases single with
    | true =>
      obtain ⟨only, rfl⟩ := List.length_eq_one_iff.mp (one rfl)
      exact isJson_pairNode .set (Value.isJson_of_isName named) (isJson_toNode all.1 fun v member =>
        json v (List.mem_append_left _ member))
    | false =>
      rw [toNode_set_list]
      exact isJson_pairNode .set (Value.isJson_of_isName named) (.list (isJson_toNodes all json))
  | both op left right =>
    obtain ⟨jsonLeft, jsonRight⟩ := List.forall_mem_append.mp json
    exact isJson_pairNode _ (isJson_toNode formed.1 jsonLeft) (isJson_toNode formed.2 jsonRight)

theorem isJson_toNodes {rules : List Rule} (formed : AllWellFormed c rules)
    (json : ∀ v ∈ allArguments rules, v.thaw.IsJson) : ∀ node ∈ toNodes rules, node.IsJson := by
  cases rules with
  | nil => exact nofun
  | cons rule rest =>
    obtain ⟨jsonHead, jsonTail⟩ := List.forall_mem_append.mp json
    exact List.forall_mem_cons.mpr
      ⟨isJson_toNode formed.1 jsonHead, isJson_toNodes formed.2 jsonTail⟩

end

end Rule

/-- The nodes of a schema's rules are compiled to these rules. -/
theorem Schema.compileElements_toNodes {s : Schema}
    (formed : Rule.AllWellFormed (.ofRegistry s.config.predicates) s.rules) :
    (Compiler.ofRegistry s.config.predicates).compileElements s.toNodes = .ok s.rules :=
  Compiler.compileAll_of_derivesAll
    (Compiler.derivesAll_toNodes (Compiler.ofRegistry_lawful _) formed)

theorem Schema.ofNodes_toNodes {s : Schema}
    (formed : Rule.AllWellFormed (.ofRegistry s.config.predicates) s.rules) :
    (ofNodes s.toNodes s.config).collect.1 = .ok s := by
  rw [ofNodes, Compiler.compileLogged, compileElements_toNodes formed]
  rfl

/-! ## Rules that come from a document -/

namespace Value.InJson

variable {number : Double → Prop}

theorem items {k : SeqKind} {items : List Value} (json : (Value.seq k items).InJson number) :
    ∀ v ∈ items, v.InJson number := by
  cases json with
  | list all => exact all

/-- What a document holds has no tuples. -/
theorem listed_eq {v : Value} (json : v.InJson number) : v.listed = v := by
  have each {vs : List Value} (all : ∀ v ∈ vs, v.listed = v) : listedAll vs = vs := by
    induction vs with
    | nil => rfl
    | cons v rest ih =>
      obtain ⟨first, others⟩ := List.forall_mem_cons.mp all
      rw [listedAll, first, ih others]
  induction json with
  | list _ ih => rw [listed, each ih]
  | _ => rfl

/-- The elements of a value from a document come from it as well. -/
theorem elements {v : Value} (json : v.InJson number) {items : List Value}
    (found : v.elements = .ok items) : ∀ item ∈ items, item.InJson number := by
  cases json with
  | null | bool _ | int _ | float _ => cases found
  | str s =>
    cases found
    exact List.forall_mem_map.mpr fun _ _ => .str _
  | list all =>
    cases found
    exact all
  | map keys _ _ =>
    cases found
    refine List.forall_mem_map.mpr fun e member => ?_
    obtain ⟨s, key⟩ := keys e member
    rw [key]
    exact .str s

end Value.InJson

namespace Compiler

variable {c : Compiler} {number : Double → Prop}

theorem inJson_of_derivesPredicate {implicit : Nat} {node : Value} {p : Predicate}
    {arguments : List Value} (leaf : DerivesPredicate c implicit node p arguments)
    (json : node.InJson number) : ∀ v ∈ arguments, v.thaw.InJson number := by
  cases leaf with
  | @intro _ _ _ _ _ given _ =>
    have payload := json.items _ (.tail _ (.head _))
    have all := (payload.items _ (.tail _ (.head _))).items
    rw [Value.freezeAll_eq_map]
    refine List.forall_mem_map.mpr fun v member => ?_
    rw [Value.thaw_freeze, (all v member).listed_eq]
    exact all v member

mutual

theorem inJson_of_derives {node : Value} {rule : Rule} (derives : Derives c node rule)
    (json : node.InJson number) : ∀ v ∈ rule.arguments, v.thaw.InJson number := by
  have payload {k k' : SeqKind} {tag : Value} {parts : List Value}
      (json : (Value.seq k [tag, .seq k' parts]).InJson number) :
      ∀ part ∈ parts, part.InJson number :=
    (json.items _ (.tail _ (.head _))).items
  cases derives with
  | key _ leaf => exact inJson_of_derivesPredicate leaf (payload json _ (.tail _ (.head _)))
  | val _ leaf => exact inJson_of_derivesPredicate leaf (payload json _ (.tail _ (.head _)))
  | eachOfInput element =>
    have inner := inJson_of_derives element (payload json _ (.head _))
    exact inner
  | each _ element =>
    have inner := inJson_of_derives element (payload json _ (.tail _ (.head _)))
    exact inner
  | setOfOne _ only =>
    have inner := inJson_of_derives only (payload json _ (.tail _ (.head _)))
    exact List.forall_mem_append.mpr ⟨inner, nofun⟩
  | set _ _ all => exact inJson_of_derivesAll all (payload json _ (.tail _ (.head _))).items
  | both left right =>
    exact List.forall_mem_append.mpr ⟨inJson_of_derives left (payload json _ (.head _)),
      inJson_of_derives right (payload json _ (.tail _ (.head _)))⟩

theorem inJson_of_derivesAll {nodes : List Value} {rules : List Rule}
    (derives : DerivesAll c nodes rules) (json : ∀ node ∈ nodes, node.InJson number) :
    ∀ v ∈ Rule.allArguments rules, v.thaw.InJson number := by
  cases derives with
  | nil => exact nofun
  | cons head tail =>
    obtain ⟨first, others⟩ := List.forall_mem_cons.mp json
    exact List.forall_mem_append.mpr
      ⟨inJson_of_derives head first, inJson_of_derivesAll tail others⟩

end

end Compiler

/-- The rules of a document have no other arguments than a document can hold, so that no document
stands for rules with a date, a set or bytes among their arguments. -/
theorem inJson_of_reread {text : String} {nodes : Value} {config : Config} {schema : Schema}
    (read : Json.read text = some nodes)
    (compiled : (Schema.ofNodes nodes config).collect.1 = .ok schema) :
    ∀ v ∈ Rule.allArguments schema.rules, v.thaw.InJson Json.IsRead := by
  have json := Json.inJson_of_read read
  obtain ⟨_, compiled⟩ := Schema.compileElements_of_ofNodes ⟨[], compiled⟩
  unfold Compiler.compileElements at compiled
  split at compiled
  · cases json
  · split at compiled
    · have items := json.elements ‹_›
      exact Compiler.inJson_of_derivesAll (Compiler.derivesAll_of_compileAll compiled) items
    · cases compiled

/-! ## The command -/

theorem Json.blank_lineEnd : ∀ c ∈ ("\n" : String).toList, isBlank c = true :=
  List.forall_mem_singleton.mpr rfl

namespace Command

/-- A command line that asks for the rules of a schema file. -/
def AsksRules (w : Workspace) (words : List String) (path : Path) : Prop :=
  ∃ p, parse [{ name := "help" }] true .empty words = some p ∧ p.has "help" = false ∧
    theFiles w 1 p = .ok [path]

variable {w : Workspace} {words : List String} {path : Path} {schema : Schema} {text : String}

/-- The nodes of a schema that is loaded are printed if they can be written. -/
theorem ast_of_asks (asks : AsksRules w words path)
    (loaded : (loadSchema w path .default).collect.1 = .ok schema)
    (written : Json.write schema.toNodes = .ok text) (v : Verbosity) :
    ast w v words =
      { exitCode := 0, stdout := text ++ "\n",
        stderr := logText v (loadSchema w path .default).collect.2 } := by
  obtain ⟨p, parsed, noHelp, files⟩ := asks
  unfold ast
  simp only [parsed, noHelp, files, bind, Except.bind, loaded, written]
  rfl

end Command

/-- **Printed rules are read back.** If the arguments of all predicates of a schema file are values
that JSON can hold, then the command that prints its rules ends without an error, what it prints is
a document, and the nodes of this document are compiled with the same predicates to the same rules.
So the schema that is printed gives the same verdict on every input. -/
theorem printed_rules_reread {w : Workspace} {words : List String} {path : Path} {schema : Schema}
    (asks : Command.AsksRules w words path)
    (loaded : (loadSchema w path .default).collect.1 = .ok schema)
    (json : ∀ v ∈ Rule.allArguments schema.rules, v.thaw.IsJson) (verbosity : Command.Verbosity) :
    (Command.ast w verbosity words).exitCode = 0 ∧
      (Command.ast w verbosity words).broken = none ∧
      ∃ nodes printed, Json.read (Command.ast w verbosity words).stdout = some nodes ∧
        (Schema.ofNodes nodes schema.config).collect.1 = .ok printed ∧
        printed.rules = schema.rules ∧
        ∀ oracle x, printed.run oracle x = schema.run oracle x := by
  obtain ⟨known, formed⟩ := wellFormed_of_loadSchema ⟨[], loaded⟩
  have isJson : schema.toNodes.IsJson := .list (Rule.isJson_toNodes formed json)
  obtain ⟨text, written⟩ := Json.exists_write isJson.isData
  rw [Command.ast_of_asks asks loaded written]
  have read := Json.read_write isJson written Json.blank_lineEnd
  have compiled : (Schema.ofNodes schema.toNodes schema.config).collect.1 = .ok schema :=
    Schema.ofNodes_toNodes (known ▸ formed)
  exact ⟨rfl, rfl, schema.toNodes, schema, read, compiled, rfl, fun _ _ => rfl⟩

/-! ## Files of one rule -/

/-- A place with a schema file of one rule. -/
def ruleDesk (rule : Rule) : Workspace where
  reader := .json
  status p :=
    if p.parts = ["rules"] then
      .file (.document (.map [(.str "version", .int 1), (.str "rules", .list [rule.toNode])]))
    else .missing

theorem asksRules_of_file {w : Workspace} {content : Content}
    (there : w ⟨.here, ["rules"]⟩ = .file content) :
    Command.AsksRules w ["rules"] ⟨.here, ["rules"]⟩ := by
  have file := filePath_of_file (splitOn_orderDesk (.inl rfl)) there (by decide +kernel)
  have paths : ["rules"].mapM (Command.filePath w) = .ok [⟨.here, ["rules"]⟩] := by
    rw [List.mapM_cons, file]
    rfl
  exact ⟨⟨[], ["rules"]⟩, by decide +kernel, rfl, bind_eq_ok_iff.mpr ⟨_, paths, rfl⟩⟩

theorem asks_ruleDesk (rule : Rule) :
    Command.AsksRules (ruleDesk rule) ["rules"] ⟨.here, ["rules"]⟩ :=
  asksRules_of_file rfl

theorem loadSchema_ruleDesk {rule : Rule} (formed : rule.WellFormed (.ofRegistry .standard)) :
    (loadSchema (ruleDesk rule) ⟨.here, ["rules"]⟩ .default).collect.1 =
      .ok ⟨[rule], .default⟩ := by
  let entries := [(Value.str "version", Value.int 1), (Value.str "rules", Value.list [rule.toNode])]
  have read : (ruleDesk rule).readDocument ⟨.here, ["rules"]⟩ = .ok (.map entries) := rfl
  have version : SchemaFile.checkVersion "rules" entries = .ok () := by
    have found : SchemaFile.field entries "version" = some (.int 1) := rfl
    have supported : (Value.int 1).isIn supportedVersions = .ok true := by decide +kernel
    rw [SchemaFile.checkVersion, found]
    simp only [supported]
  have nodes : SchemaFile.ruleNodes "rules" entries = .ok (.list [rule.toNode]) := rfl
  have scope : SchemaFile.applyScope "rules" entries .default = .ok .default := rfl
  have messages : SchemaFile.applyMessages (ruleDesk rule) ⟨.here, ["rules"]⟩ entries
      (SchemaFile.applyLocale entries .default) = pure .default := rfl
  have compiled : (Compiler.ofRegistry Config.default.predicates).compileElements
      (.list [rule.toNode]) = .ok [rule] :=
    Schema.compileElements_toNodes (s := ⟨[rule], .default⟩) ⟨formed, trivial⟩
  simp only [loadSchema, read, Except.mapError, Logged.ofExcept, pure_bind, Path.name,
    List.getLast?_singleton, Option.getD_some, version, nodes, scope, messages, Schema.ofNodes,
    Compiler.compileLogged, compiled]
  rfl

/-- A rule with lists inside a list, a map, and a string that is not printed as it is. -/
def screwRule : Rule :=
  .both .implication
    (.val (.str "kind") (.ofStandard (.binary .oneOf))
      [.tuple [.str "3/8\" ½", .int (-3), .tuple [.null, .tuple []]]])
    (.val .null (.ofStandard (.binary .equals))
      [.map [(.str "width", .atom (.float (.finite false (5 * 2 ^ 50) (-51)))),
        (.str "tags", .list [.bool true])]])

theorem isJson_screwRule : ∀ v ∈ Rule.allArguments [screwRule], v.thaw.IsJson := by
  have width : (Double.finite false (5 * 2 ^ 50) (-51)).IsNumber :=
    ⟨by decide, by decide, by decide, by decide⟩
  have kinds : (Value.list [.str "3/8\" ½", .int (-3), .list [.null, .list []]]).IsJson := by
    refine .list (List.forall_mem_cons.mpr ⟨.str _, List.forall_mem_cons.mpr ⟨.int _, ?_⟩⟩)
    exact List.forall_mem_singleton.mpr (.list (List.forall_mem_cons.mpr
      ⟨.null, List.forall_mem_singleton.mpr (.list nofun)⟩))
  have whole : (Value.map [(.str "width", .atom (.float (.finite false (5 * 2 ^ 50) (-51)))),
      (.str "tags", .list [.bool true])]).IsJson := by
    refine .map (by simp) (by simp) (List.forall_mem_cons.mpr ⟨.float width, ?_⟩)
    exact List.forall_mem_singleton.mpr (.list (List.forall_mem_singleton.mpr (.bool true)))
  exact List.forall_mem_cons.mpr ⟨kinds, List.forall_mem_singleton.mpr whole⟩

theorem printed_rules_reread_screwRule :
    ∃ nodes printed,
      Json.read (Command.ast (ruleDesk screwRule) .quiet ["rules"]).stdout = some nodes ∧
      (Schema.ofNodes nodes .default).collect.1 = .ok printed ∧ printed.rules = [screwRule] := by
  have formed : screwRule.WellFormed (.ofRegistry .standard) := by decide +kernel
  obtain ⟨_, _, nodes, printed, read, compiled, same, _⟩ := printed_rules_reread
    (asks_ruleDesk screwRule) (loadSchema_ruleDesk formed) isJson_screwRule .quiet
  exact ⟨nodes, printed, read, compiled, same⟩

/-- A rule that compares with a bound. -/
def dueRule (bound : Value) : Rule :=
  .val (.str "due") (.ofStandard (.binary .equals)) [bound]

def dueDate : Value := .atom (.date ⟨2024, 1, 31⟩)

/-- The two rules are written alike. -/
theorem write_dueDate :
    Json.write (Schema.toNodes ⟨[dueRule dueDate], .default⟩) =
      Json.write (Schema.toNodes ⟨[dueRule (.str "2024-01-31")], .default⟩) := by
  have text : Atom.text (.date ⟨2024, 1, 31⟩) = "2024-01-31" := by decide +kernel
  have bound (level : Nat) :
      Json.valueText level dueDate = Json.valueText level (.str "2024-01-31") :=
    congrArg (fun shown => (.ok (Json.stringText shown) : Except Fault String)) text
  have kept : dueDate.thaw = dueDate ∧ (Value.str "2024-01-31").thaw = .str "2024-01-31" :=
    ⟨rfl, rfl⟩
  simp only [Json.write, Schema.toNodes, Rule.toNodes, Rule.toNode, dueRule, Predicate.toNode,
    nodeOf, Value.thawAll, kept, Json.valueText, Json.itemTexts, bound]

/-- **A date is printed as a string.** A schema file that compares with a date is printed without an
error, and the nodes that are printed are compiled; but the rule that they stand for compares with a
string, is not equal to the rule of the file, and rejects the date. -/
theorem printed_date_reread :
    Command.AsksRules (ruleDesk (dueRule dueDate)) ["rules"] ⟨.here, ["rules"]⟩ ∧
    ∃ schema nodes printed,
      (loadSchema (ruleDesk (dueRule dueDate)) ⟨.here, ["rules"]⟩ .default).collect.1 =
        .ok schema ∧
      Json.read (Command.ast (ruleDesk (dueRule dueDate)) .normal ["rules"]).stdout = some nodes ∧
      (Schema.ofNodes nodes schema.config).collect.1 = .ok printed ∧
      Rule.equalAll schema.rules printed.rules = .ok false ∧
      (schema.run Check.oracle (.map [(.str "due", dueDate)])).1.toOption.map Verdict.isSuccess =
        some true ∧
      (printed.run Check.oracle (.map [(.str "due", dueDate)])).1.toOption.map Verdict.isSuccess =
        some false := by
  have formed : (dueRule dueDate).WellFormed (.ofRegistry .standard) := by decide +kernel
  have formed' : (dueRule (.str "2024-01-31")).WellFormed (.ofRegistry .standard) := by
    decide +kernel
  have asks := asks_ruleDesk (dueRule dueDate)
  have loaded := loadSchema_ruleDesk formed
  have allFormed : Rule.AllWellFormed (.ofRegistry .standard) [dueRule (.str "2024-01-31")] :=
    ⟨formed', trivial⟩
  have isJson : (Schema.toNodes ⟨[dueRule (.str "2024-01-31")], .default⟩).IsJson :=
    .list (Rule.isJson_toNodes allFormed (List.forall_mem_singleton.mpr (.str _)))
  obtain ⟨text, written⟩ := Json.exists_write isJson.isData
  have shown := Command.ast_of_asks asks loaded (write_dueDate.trans written) .normal
  have read := Json.read_write isJson written Json.blank_lineEnd
  rw [shown]
  refine ⟨asks, ⟨[dueRule dueDate], .default⟩, _, ⟨[dueRule (.str "2024-01-31")], .default⟩, loaded,
    read, Schema.ofNodes_toNodes (s := ⟨[_], .default⟩) allFormed, ?_, ?_, ?_⟩
  all_goals decide +kernel

end Rulebook
