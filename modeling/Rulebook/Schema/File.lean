import Rulebook.Schema.Basic
import Rulebook.Message.Layout
import Rulebook.Workspace.Basic
import Rulebook.Text.Blank
import Rulebook.Value.Membership

/-!
Schema files and message files. A schema file is a map with a version, a list of rules, and as
options a scope, a locale and a reference to a message file beside it.
-/

namespace Rulebook

/-- Why a file gives no schema or no messages. -/
inductive LoadError where
  | unreadableSchema (path : Path)
  | notMap (file : String)
  | noVersion (file : String)
  | badVersion (file : String) (version : Value)
  | rulesNotList (file : String)
  | badScope (file : String)
  | unreadableMessages (path : Path)
  | badLayout (e : LayoutError)
  | badRules (e : CompileError)
  /-- A file cannot be read, in a way that is not reported as an error of the set-up. -/
  | unread (e : ReadError)
  /-- The version is of a kind that cannot be looked up. -/
  | brokenOff (fault : Fault)
  deriving Repr

/-- The versions of schema files that are understood. -/
def supportedVersions : Value := .ofMembers .frozen [.int 1]

namespace LoadError

/-- The text of an error. Where a file cannot be read it would go on with a colon and the reason that
the system or the reader gives, which is left out. -/
def message : LoadError → String
  | .unreadableSchema path => "Cannot read schema " ++ path.text
  | .notMap file => file ++ ": schema must be a YAML mapping"
  | .noVersion file => file ++ ": missing required 'version' field"
  | .badVersion file version =>
    file ++ ": unsupported version " ++ version.text ++ ", expected one of [1]"
  | .rulesNotList file => file ++ ": 'rules' must be a list of AST nodes"
  | .badScope file => file ++ ": 'namespace' must be a non-empty string"
  | .unreadableMessages path => "Cannot load messages from " ++ path.text
  | .badLayout e => e.message
  | .badRules e => e.message
  | .unread _ | .brokenOff _ => ""

/-- An error of reading, as it is reported if it is. -/
def ofRead (reported : LoadError) (e : ReadError) : LoadError :=
  if e.isReported then reported else .unread e

end LoadError

/-- Loads a message file. -/
def loadMessages (w : Workspace) (path : Path) : Logged LoadError MessageTable := do
  let data ← Logged.ofExcept <|
    (w.readDocument path).mapError (.ofRead (.unreadableMessages path))
  let table ← Logged.ofExcept <| (MessageTable.ofLayout data).mapError .badLayout
  Logged.write .debug .messages
    ("Loaded " ++ toString table.size ++ " message templates from " ++ path.text)
  return table

namespace SchemaFile

/-- What stands in an optional place of the file; null stands for nothing. -/
def field (entries : List (Value × Value)) (name : String) : Option Value :=
  (Value.lookup (.str name) entries).filter fun v => !v.isNull

/-- Checks the version. -/
def checkVersion (file : String) (entries : List (Value × Value)) : Except LoadError Unit :=
  match field entries "version" with
  | none => .error (.noVersion file)
  | some version =>
    match version.isIn supportedVersions with
    | .ok true => .ok ()
    | .ok false => .error (.badVersion file version)
    | .error f => .error (.brokenOff f)

/-- The list of rules. -/
def ruleNodes (file : String) (entries : List (Value × Value)) : Except LoadError Value :=
  match field entries "rules" with
  | some (.list nodes) => .ok (.list nodes)
  | _ => .error (.rulesNotList file)

/-- The configuration with the file's scope, which must not be blank. -/
def applyScope (file : String) (entries : List (Value × Value)) (config : Config) :
    Except LoadError Config :=
  match field entries "namespace" with
  | none => .ok config
  | some (.str s) =>
    if Text.isBlankText s then .error (.badScope file) else .ok (config.withScope (some s))
  | some _ => .error (.badScope file)

/-- The configuration with the file's locale. -/
def applyLocale (entries : List (Value × Value)) (config : Config) : Config :=
  match field entries "locale" with
  | none => config
  | some v => config.withLocale v.text

/-- The configuration with the messages that the file refers to. A file that is not there is
recorded and otherwise ignored; a reference that cannot be looked up is an error. -/
def applyMessages (w : Workspace) (path : Path) (entries : List (Value × Value)) (config : Config) :
    Logged LoadError Config :=
  match field entries "messages" with
  | none => return config
  | some reference => do
    let source := path.parent.join (.ofText reference.text)
    match (w source).refusal? with
    | some e => throw (.unread e)
    | none =>
      if w.isFile source then
        return config.withMessages (← loadMessages w source)
      else
        Logged.write .warning .schema
          ("Messages file " ++ source.text ++ " referenced by " ++ path.name
            ++ " not found, using defaults")
        return config

end SchemaFile

/-- Loads a schema file on top of a configuration. -/
def loadSchema (w : Workspace) (path : Path) (config : Config) : Logged LoadError Schema := do
  let data ← Logged.ofExcept <|
    (w.readDocument path).mapError (.ofRead (.unreadableSchema path))
  match data with
  | .map entries =>
    Logged.ofExcept (SchemaFile.checkVersion path.name entries)
    let nodes ← Logged.ofExcept (SchemaFile.ruleNodes path.name entries)
    let config ← Logged.ofExcept (SchemaFile.applyScope path.name entries config)
    let config ←
      SchemaFile.applyMessages w path entries (SchemaFile.applyLocale entries config)
    let schema ← Logged.mapError .badRules (Schema.ofNodes nodes config)
    Logged.write .debug .schema
      ("Loaded schema " ++ path.text ++ " with " ++ toString schema.rules.length ++ " rules")
    return schema
  | _ => throw (.notMap path.name)

end Rulebook
