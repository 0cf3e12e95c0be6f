import Rulebook.Proofs.Schema.Loading

/-!
How the commands end that cannot load their schema. Main statements:
* `Command.exitCode_ast_of_refused`, `Command.exitCode_check_of_refused`: a reported error ends with
  the code of a broken set-up, and every other one with the code of an invalid input;
* `schema_loading`: which schema files are loaded, what breaks loading off, and how commands end.
-/

namespace Rulebook

open Logged

/-- The code with which a command ends that cannot load its schema. -/
def LoadError.exitCode (e : LoadError) : Nat := if e.isReported then 2 else 1

/-- A check stops with a report exactly for the errors that are reported. -/
theorem CheckStop.ofLoad_cases (report : LoadError → CheckError) (e : LoadError) :
    (e.exitCode = 2 ∧ ofLoad report e = .reported (report e)) ∨
      (e.exitCode = 1 ∧
        ((∃ f, ofLoad report e = .fault f) ∨ ∃ r, ofLoad report e = .unread r)) := by
  cases e with
  | unread r => exact .inr ⟨rfl, .inr ⟨r, rfl⟩⟩
  | brokenOff f => exact .inr ⟨rfl, .inl ⟨f, rfl⟩⟩
  | badRules offence =>
    cases offence with
    | brokenOff f => exact .inr ⟨rfl, .inl ⟨f, rfl⟩⟩
    | _ => exact .inl ⟨rfl, rfl⟩
  | _ => exact .inl ⟨rfl, rfl⟩

namespace Command

variable {w : Workspace} {words : List String} {path inputPath : Path} {e : LoadError}

theorem exitCode_ast_of_refused (asks : AsksRules w words path)
    (refused : (loadSchema w path .default).collect.1 = .error e) (v : Verbosity) :
    (ast w v words).exitCode = e.exitCode := by
  obtain ⟨p, parsed, noHelp, files⟩ := asks
  unfold ast
  simp only [parsed, noHelp, files, bind, Except.bind, refused]
  rcases CheckStop.ofLoad_cases .invalidSchema e with
    ⟨code, stop⟩ | ⟨code, ⟨f, stop⟩ | ⟨r, stop⟩⟩ <;>
    · rw [code, stop]
      rfl

theorem collect_run_of_refused (elapsed : Double) (inputPath : Path) (o : CheckOptions)
    (refused : (loadSchema w path .default).collect.1 = .error e) :
    (Check.run w elapsed path inputPath o).collect.1 =
      .error (CheckStop.ofLoad .invalidSchema e) := by
  refine collect_bind_error ?_
  rw [collect_mapError, refused]
  rfl

theorem exitCode_check_of_refused {elapsed : Double} {o : CheckOptions} {form : ReportForm}
    (asks : Asks w words path inputPath o form)
    (refused : (loadSchema w path .default).collect.1 = .error e) (v : Verbosity) :
    (check w elapsed v words).exitCode = e.exitCode := by
  have stopped := collect_run_of_refused elapsed inputPath o refused
  obtain ⟨p, parsed, noHelp, vetted, formed, messages, scope, locale, files⟩ := asks
  unfold check
  simp only [parsed, noHelp, vetted, formed, messages, files, scope, locale, bind, Except.bind,
    stopped]
  rcases CheckStop.ofLoad_cases .invalidSchema e with
    ⟨code, stop⟩ | ⟨code, ⟨f, stop⟩ | ⟨r, stop⟩⟩ <;>
    · rw [code, stop]
      rfl

end Command

/-- **Which schema files are loaded, and which break the program off.** Whatever reads the general
notation, a schema file gives a schema exactly if it holds a map whose version equals one, whose
rules are a list of nodes that are all compiled, whose scope is a text that is not blank if there is
one, and whose reference to messages, if there is one, can be looked up and leads to no file or to
one with a layout of messages. Otherwise an error of the set-up is reported, unless a path is no path,
the bytes of a file are no text, the reader does something else than refusing the notation, the
version cannot be looked up, the reference to messages cannot be either, or the check of the first
regular expression at fault breaks off. A command that cannot load its schema ends with the code 2 if
the error is reported and with the code 1, that of an invalid input, if it is not. -/
theorem schema_loading (w : Workspace) (path : Path) (config : Config) :
    ((∃ schema, (loadSchema w path config).collect.1 = .ok schema) ↔
      ∃ entries nodes, SchemaFile.Opens w path entries nodes ∧
        SchemaFile.HasMessages w path entries ∧
        ∀ node ∈ nodes, ∃ rule,
          (Compiler.ofRegistry config.predicates).compile node = .ok rule) ∧
    (∀ e, (loadSchema w path config).collect.1 = .error e ∧ e.isReported = false ↔
      SchemaFile.BreaksOff w path config e) ∧
    ∀ e, (loadSchema w path .default).collect.1 = .error e →
      (∀ words v, Command.AsksRules w words path →
        (Command.ast w v words).exitCode = if e.isReported then 2 else 1) ∧
      ∀ words elapsed v inputPath o form, Command.Asks w words path inputPath o form →
        (Command.check w elapsed v words).exitCode = if e.isReported then 2 else 1 := by
  refine ⟨exists_loadSchema_iff, fun e => breaksOff_iff, fun e refused => ⟨?_, ?_⟩⟩
  · exact fun words v asks => Command.exitCode_ast_of_refused asks refused v
  · exact fun words elapsed v inputPath o form asks =>
      Command.exitCode_check_of_refused asks refused v

/-- A place with a schema file, where the reader knows of one day that its month lacks it. -/
def deskWith (file : List UInt8) : Workspace where
  reader.read text := if text = "2023-02-30" then .error .noValue else Reader.json.read text
  status p := if p.parts = ["rules"] then .file (.bytes file) else .missing

/-- A place with a schema file that is no text. -/
def blotDesk : Workspace := deskWith [0xFF]

/-- A place with a schema file that holds such a day. -/
def dayDesk : Workspace := deskWith "2023-02-30".toUTF8.toList

theorem unreadable_blotDesk : Unreadable blotDesk ⟨.here, ["rules"]⟩ .notText :=
  .notText rfl (by decide +kernel) rfl

theorem unreadable_dayDesk : Unreadable dayDesk ⟨.here, ["rules"]⟩ .noValue := by
  have decoded :
      String.fromUTF8? ⟨"2023-02-30".toUTF8.toList.toArray⟩ = some "2023-02-30" := by
    decide +kernel
  exact .noValue (.ofText rfl decoded rfl)

theorem schema_loading_blotDesk :
    (loadSchema blotDesk ⟨.here, ["rules"]⟩ .default).collect.1 = .error (.unread .notText) ∧
      (Command.ast blotDesk .normal ["rules"]).exitCode = 1 ∧
      (loadSchema dayDesk ⟨.here, ["rules"]⟩ .default).collect.1 = .error (.unread .noValue) ∧
      (Command.ast dayDesk .normal ["rules"]).exitCode = 1 := by
  obtain ⟨_, breaks, codes⟩ := schema_loading blotDesk ⟨.here, ["rules"]⟩ .default
  obtain ⟨_, breaks', codes'⟩ := schema_loading dayDesk ⟨.here, ["rules"]⟩ .default
  have blotted := ((breaks _).mpr (.unreadable unreadable_blotDesk)).1
  have refused := ((breaks' _).mpr (.unreadable unreadable_dayDesk)).1
  exact ⟨blotted, (codes _ blotted).1 _ .normal (asksRules_of_file rfl), refused,
    (codes' _ refused).1 _ .normal (asksRules_of_file rfl)⟩

/-- Not every error of loading is one of the set-up. -/
theorem undecodable_schema_unreported :
    ¬∀ e, (loadSchema blotDesk ⟨.here, ["rules"]⟩ .default).collect.1 = .error e →
      e.isReported = true := by
  intro reported
  have breaksOff : SchemaFile.BreaksOff blotDesk ⟨.here, ["rules"]⟩ .default (.unread .notText) :=
    .unreadable unreadable_blotDesk
  obtain ⟨refused, unreported⟩ := breaksOff_iff.mpr breaksOff
  rw [reported _ refused] at unreported
  cases unreported

end Rulebook
