import Rulebook.Schema.File
import Rulebook.Proofs.Schema.Verdict

/-!
What is in a loaded schema. Main statement:
* `wellFormed_of_loadSchema`: a file can change everything in a configuration but its predicates, and
  its rules are compiled with these.
-/

namespace Rulebook

open Logged

namespace SchemaFile

variable {file : String} {entries : List (Value × Value)} {config config' : Config}

theorem predicates_of_applyScope (applied : applyScope file entries config = .ok config') :
    config'.predicates = config.predicates := by
  unfold applyScope at applied
  split at applied
  · cases applied
    rfl
  · split at applied
    · cases applied
    · cases applied
      rfl
  · cases applied

theorem predicates_applyLocale (entries : List (Value × Value)) (config : Config) :
    (applyLocale entries config).predicates = config.predicates := by
  unfold applyLocale
  split <;> rfl

theorem predicates_of_applyMessages {w : Workspace} {path : Path}
    (applied : (applyMessages w path entries config).ComesTo (.ok config')) :
    config'.predicates = config.predicates := by
  unfold applyMessages at applied
  split at applied
  · cases comesTo_pure_iff.mp applied
    rfl
  · dsimp only at applied
    split at applied
    · cases comesTo_throw_iff.mp applied
    · split at applied
      · obtain ⟨table, _, applied⟩ := comesTo_bind_ok applied
        cases comesTo_pure_iff.mp applied
        rfl
      · obtain ⟨_, _, applied⟩ := comesTo_bind_ok applied
        cases comesTo_pure_iff.mp applied
        rfl

end SchemaFile

theorem wellFormed_of_loadSchema {w : Workspace} {path : Path} {config : Config} {schema : Schema}
    (loaded : (loadSchema w path config).ComesTo (.ok schema)) :
    schema.config.predicates = config.predicates ∧
      Rule.AllWellFormed (.ofRegistry config.predicates) schema.rules := by
  obtain ⟨data, _, loaded⟩ := comesTo_bind_ok loaded
  split at loaded
  case h_2 => cases comesTo_throw_iff.mp loaded
  obtain ⟨_, _, loaded⟩ := comesTo_bind_ok loaded
  obtain ⟨nodes, _, loaded⟩ := comesTo_bind_ok loaded
  obtain ⟨_, byScope, loaded⟩ := comesTo_bind_ok loaded
  obtain ⟨found, byMessages, loaded⟩ := comesTo_bind_ok loaded
  obtain ⟨own, made, loaded⟩ := comesTo_bind_ok loaded
  obtain ⟨_, _, same⟩ := comesTo_bind_ok loaded
  cases comesTo_pure_iff.mp same
  obtain ⟨ownConfig, formed⟩ := Schema.wellFormed_of_ofNodes (comesTo_mapError_ok made)
  have kept : found.predicates = config.predicates := by
    rw [SchemaFile.predicates_of_applyMessages byMessages, SchemaFile.predicates_applyLocale,
      SchemaFile.predicates_of_applyScope (comesTo_ofExcept_iff.mp byScope).symm]
  exact ⟨ownConfig ▸ kept, kept ▸ formed⟩

end Rulebook
