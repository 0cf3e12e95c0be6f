import Rulebook.Proofs.Message.Layers
import Rulebook.Proofs.Schema.Loading

/-!
The messages that a check uses: tables on top of one another. Main statements:
* `messages_of_loadSchema`: a schema file puts the messages it refers to on top;
* `Check.messages_of_ran`: a check puts those of the caller on top of all;
* `layered_lookup`: what a lookup finds in layers of messages.
-/

namespace Rulebook

open Logged

/-! ## Files as layers -/

/-- Message files give tables, one each. -/
def LoadsTables (w : Workspace) (files : List Path) (tables : List MessageTable) : Prop :=
  List.Forall₂ (fun file t => (loadMessages w file).collect.1 = .ok t) files tables

/-- The message file that a schema file refers to, if it is there. -/
def SchemaFile.messageFiles (w : Workspace) (path : Path) (entries : List (Value × Value)) :
    List Path :=
  (source? path entries).toList.filter w.isFile

theorem Logged.Steady.collect_of_comesTo {ε α : Type} {x : Logged ε α} (steady : Steady x)
    {o : Except ε α} (came : x.ComesTo o) : x.collect.1 = o := by
  obtain ⟨before, came⟩ := came
  exact (steady [] before).trans came

theorem steady_loadMessages (w : Workspace) (path : Path) : Steady (loadMessages w path) :=
  (steady_ofExcept _).bind fun _ => (steady_ofExcept _).bind fun t =>
    (steady_write _ _ _).bind fun _ => steady_pure t

namespace SchemaFile

variable {w : Workspace} {path : Path} {entries : List (Value × Value)} {config own : Config}

theorem messages_of_applyScope {file : String}
    (applied : applyScope file entries config = .ok own) : own.messages = config.messages := by
  unfold applyScope at applied
  split at applied
  · cases applied
    rfl
  · split at applied
    · cases applied
    · cases applied
      rfl
  · cases applied

theorem messages_applyLocale (entries : List (Value × Value)) (config : Config) :
    (applyLocale entries config).messages = config.messages := by
  unfold applyLocale
  split <;> rfl

theorem messages_of_applyMessages
    (applied : (applyMessages w path entries config).collect.1 = .ok own) :
    ∃ tables, LoadsTables w (messageFiles w path entries) tables ∧
      own.messages = .stack (config.messages :: tables) := by
  have alone : config.messages = .stack [config.messages] := (MessageTable.empty_merge _).symm
  rw [collect_applyMessages] at applied
  unfold messageFiles
  cases referred : source? path entries with
  | none =>
    rw [referred] at applied
    cases applied
    exact ⟨[], .nil, alone⟩
  | some source =>
    simp only [referred] at applied
    cases refused : (w source).refusal? with
    | some e =>
      rw [refused] at applied
      cases applied
    | none =>
      simp only [refused] at applied
      cases isFile : w.isFile source with
      | true =>
        rw [isFile] at applied
        obtain ⟨t, loaded, same⟩ := bind_eq_ok_iff.mp applied
        cases same
        refine ⟨[t], ?_, ?_⟩
        · simpa [isFile, LoadsTables] using loaded
        · exact config.messages_foldl_withMessages [t]
      | false =>
        rw [isFile] at applied
        cases applied
        exact ⟨[], by simp [isFile, LoadsTables], alone⟩

end SchemaFile

theorem messages_of_loadSchema {w : Workspace} {path : Path} {config : Config} {schema : Schema}
    (loaded : (loadSchema w path config).collect.1 = .ok schema) :
    ∃ entries tables, w.readDocument path = .ok (.map entries) ∧
      LoadsTables w (SchemaFile.messageFiles w path entries) tables ∧
      schema.config.messages = .stack (config.messages :: tables) := by
  rw [collect_loadSchema] at loaded
  obtain ⟨data, read, loaded⟩ := bind_eq_ok_iff.mp loaded
  cases data with
  | map entries =>
    obtain ⟨_, _, loaded⟩ := bind_eq_ok_iff.mp loaded
    obtain ⟨nodes, _, loaded⟩ := bind_eq_ok_iff.mp loaded
    obtain ⟨own, inScope, loaded⟩ := bind_eq_ok_iff.mp loaded
    obtain ⟨full, applied, loaded⟩ := bind_eq_ok_iff.mp loaded
    obtain ⟨tables, files, messages⟩ := SchemaFile.messages_of_applyMessages applied
    rw [mapError_eq_ok_iff, collect_ofNodes] at loaded
    obtain ⟨rules, _, same⟩ := bind_eq_ok_iff.mp loaded
    cases same
    rw [SchemaFile.messages_applyLocale, SchemaFile.messages_of_applyScope inScope] at messages
    exact ⟨entries, tables, mapError_eq_ok_iff.mp read, files, messages⟩
  | _ => cases loaded

namespace Check

variable {w : Workspace} {o : CheckOptions} {config own : Config}

theorem messages_of_configure (configured : (configure w o config).ComesTo (.ok own)) :
    ∃ tables, LoadsTables w o.messagesPath.toList tables ∧
      own.messages = .stack (config.messages :: tables) := by
  unfold configure at configured
  -- The scope and the locale leave the messages as they are.
  cases asked : o.messagesPath with
  | none =>
    rw [asked] at configured
    cases comesTo_pure_iff.mp configured
    refine ⟨[], .nil, ?_⟩
    cases o.scope <;> cases o.locale <;> exact (MessageTable.empty_merge _).symm
  | some p =>
    rw [asked] at configured
    obtain ⟨t, loaded, configured⟩ := comesTo_bind_ok configured
    cases comesTo_pure_iff.mp configured
    have table := (steady_loadMessages w p).collect_of_comesTo (comesTo_mapError_ok loaded)
    refine ⟨[t], .cons table .nil, ?_⟩
    cases o.scope <;> cases o.locale <;> exact config.messages_foldl_withMessages [t]

/-- The English messages lie at the bottom, those that the schema file refers to above them, and
those of the caller on top. -/
theorem messages_of_ran {schemaPath inputPath : Path} {schema : Schema} {x : Value} {v : Verdict}
    (ran : Ran w schemaPath inputPath o schema x v) :
    ∃ entries tables, w.readDocument schemaPath = .ok (.map entries) ∧
      LoadsTables w (SchemaFile.messageFiles w schemaPath entries ++ o.messagesPath.toList) tables ∧
      v.config.messages = .stack (.english :: tables) := by
  obtain ⟨entries, lower, read, files, below⟩ := messages_of_loadSchema ran.loaded
  obtain ⟨upper, wishes, messages⟩ := messages_of_configure ran.configured
  refine ⟨entries, lower ++ upper, read, List.rel_append files wishes, ?_⟩
  rw [messages, MessageTable.stack_cons, below, ← MessageTable.stack_append]
  rfl

end Check

/-- **More specific wins, then later wins.** A lookup in a merged table finds nothing exactly if it
finds nothing in both parts. If the upper part has a hit, and the lower one none under a key that is
tried earlier, then what the upper part finds is found, and otherwise what the lower part finds.
Merging is associative, has the empty table as identity, and changes nothing where a table is merged
with itself; so of any layers only the order counts: of the tables that a configuration is given one
after another, of a loaded schema file, and of a check. When layers come on top of others, what was
hit below stays, or what is hit instead stands in one of the upper layers, under the same key or one
that is tried earlier; and keys are tried in the order of their ranks. -/
theorem layered_lookup (q : MessageQuery) :
    (∀ (t : MessageTable) template,
      t.lookup q = some template ↔ ∃ key, t.Hit q key template) ∧
    (∀ a b : MessageTable,
      ((a.merge b).lookup q = none ↔ a.lookup q = none ∧ b.lookup q = none) ∧
      (a.Prevails b q → (a.merge b).lookup q = b.lookup q) ∧
      (¬a.Prevails b q → (a.merge b).lookup q = a.lookup q)) ∧
    (∀ a b c : MessageTable, (a.merge b).merge c = a.merge (b.merge c) ∧
      MessageTable.empty.merge a = a ∧ a.merge .empty = a ∧ a.merge a = a) ∧
    (∀ g : Layering, g.merged = .stack g.layers) ∧
    (∀ (config : Config) (tables : List MessageTable),
      (tables.foldl Config.withMessages config).messages = .stack (config.messages :: tables)) ∧
    (∀ w path config schema, (loadSchema w path config).collect.1 = .ok schema →
      ∃ entries tables, w.readDocument path = .ok (.map entries) ∧
        LoadsTables w (SchemaFile.messageFiles w path entries) tables ∧
        schema.config.messages = .stack (config.messages :: tables)) ∧
    (∀ w elapsed path inputPath o r, (Check.run w elapsed path inputPath o).collect.1 = .ok r →
      ∃ schema x v entries tables, Check.Ran w path inputPath o schema x v ∧ Check.Shows r v ∧
        w.readDocument path = .ok (.map entries) ∧
        LoadsTables w (SchemaFile.messageFiles w path entries ++ o.messagesPath.toList) tables ∧
        v.config.messages = .stack (.english :: tables)) ∧
    (∀ lower upper key template, (MessageTable.stack lower).Hit q key template →
      ((MessageTable.stack (lower ++ upper)).Hit q key template ∧
        ∀ t ∈ upper, ∀ key' template', t.Hit q key' template' →
          q.keys.idxOf key < q.keys.idxOf key') ∨
      ∃ t ∈ upper, ∃ key' template', t.Hit q key' template' ∧
        (MessageTable.stack (lower ++ upper)).Hit q key' template' ∧
        q.keys.idxOf key' ≤ q.keys.idxOf key) ∧
    ∀ key ∈ q.keys, ∀ other ∈ q.keys,
      (q.keys.idxOf key < q.keys.idxOf other ↔ q.rank key < q.rank other) := by
  refine ⟨fun _ _ => MessageTable.lookup_eq_some_iff_hit, fun a b => ?_, fun a b c => ?_,
    Layering.merged_eq_stack, Config.messages_foldl_withMessages,
    fun _ _ _ _ => messages_of_loadSchema, ?_,
    fun _ _ _ _ => MessageTable.hit_stack_append,
    fun _ known _ known' => MessageQuery.idxOf_lt_iff known known'⟩
  · exact ⟨MessageTable.lookup_merge_eq_none_iff, MessageTable.lookup_merge_of_prevails,
      MessageTable.lookup_merge_of_not_prevails⟩
  · exact ⟨a.merge_assoc b c, a.empty_merge, a.merge_empty, a.merge_self⟩
  · intro w elapsed path inputPath o r came
    obtain ⟨schema, x, v, ran, shows⟩ := Check.ran_of_run came
    obtain ⟨entries, tables, read, files, messages⟩ := Check.messages_of_ran ran
    exact ⟨schema, x, v, entries, tables, ran, shows, read, files, messages⟩

/-- A message about too small a total, whatever it is the total of. -/
def totalMessages : MessageTable :=
  .ofList [(⟨"en", none, some "total", "gt?", none, none⟩, "must cost something")]

/-- A message about anything that is too small. -/
def boundMessages : MessageTable :=
  .ofList [(⟨"en", none, none, "gt?", none, none⟩, "is too small")]

/-- What is looked up for a total that is too small. -/
def totalQuery : MessageQuery where
  predicate := "gt?"
  scope := some "orders"
  rule := some "total"
  locale := "en"

/-- A later message that is less specific does not apply. -/
theorem layered_lookup_boundMessages :
    (MessageTable.stack ([totalMessages] ++ [boundMessages])).lookup totalQuery =
      some "must cost something" := by
  obtain ⟨found, _, _, _, _, _, _, displaced, _⟩ := layered_lookup totalQuery
  have hit : (MessageTable.stack [totalMessages]).Hit totalQuery
      ⟨"en", none, some "total", "gt?", none, none⟩ "must cost something" :=
    .of_le (by decide +kernel) (by decide +kernel) (by decide +kernel)
  rcases displaced _ [boundMessages] _ _ hit with
    ⟨stays, _⟩ | ⟨t, member, key, template, own, _, le⟩
  · exact (found _ _).mpr ⟨_, stays⟩
  · cases List.mem_singleton.mp member
    have general : ∀ key ∈ totalQuery.keys, (boundMessages.get? key).isSome = true →
        key = ⟨"en", none, none, "gt?", none, none⟩ := by
      decide +kernel
    cases general key own.member own.isSome
    revert le
    decide +kernel

end Rulebook
