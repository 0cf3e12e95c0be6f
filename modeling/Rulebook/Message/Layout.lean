import Rulebook.Message.Table
import Rulebook.Value.Equality

/-!
The layout in which message tables are written: locales, each with an `errors` map. Under it, a key
that ends in a question mark is a predicate, `rules` holds the messages of single fields, and any
other key is a scope with the same layout but no scopes inside. A template is a string, or a map of
sections: `text` and `arg.default` for no particular type, `arg` for types of the argument, and
`value` for types of the value, each with a template of its own.
-/

namespace Rulebook

/-- Why data does not have the layout of a message table. -/
inductive LayoutError where
  | noLocales
  | noErrors (locale : String)
  | badRules (locale : String)
  | badRule (rule : String)
  | badTemplate (predicate : String)
  | badArgument (predicate type : String)
  | badSection (name predicate : String)
  | badKey (key locale : String)
  deriving DecidableEq, Repr

def LayoutError.message : LayoutError → String
  | .noLocales => "messages: top level must be a mapping of locales"
  | .noErrors locale => "messages: locale '" ++ locale ++ "' must contain an 'errors' mapping"
  | .badRules locale => "messages: 'rules' in locale '" ++ locale ++ "' must be a mapping"
  | .badRule rule => "messages: rule '" ++ rule ++ "' must map predicates to templates"
  | .badTemplate predicate =>
    "messages: template for '" ++ predicate ++ "' must be a string or mapping"
  | .badArgument predicate type =>
    "messages: '" ++ predicate ++ "' arg." ++ type ++ " must be a string"
  | .badSection name predicate =>
    "messages: unexpected section '" ++ name ++ "' under '" ++ predicate ++ "'"
  | .badKey key locale => "messages: unexpected key '" ++ key ++ "' in locale '" ++ locale ++ "'"

namespace Layout

/-- A template and the key that it stands under. -/
abbrev Assignment := MessageKey × String

abbrev Assignments := Except LayoutError (List Assignment)

/-- The part of a key that the place in the layout decides. -/
structure Place where
  locale : String
  scope : Option String
  rule : Option String
  predicate : String
  deriving DecidableEq, Repr

def Place.key (p : Place) (valueType argumentType : Option String) : MessageKey :=
  ⟨p.locale, p.scope, p.rule, p.predicate, valueType, argumentType⟩

/-- The assignments of all entries of a map, in order. -/
def ofEntries (entry : Value → Value → Assignments) : List (Value × Value) → Assignments
  | [] => .ok []
  | (k, v) :: rest => do
    let here ← entry k v
    return here ++ (← ofEntries entry rest)

/-- An argument type and its template. The default stands for no particular type. -/
def ofArgument (p : Place) (valueType : Option String) (type template : Value) : Assignments :=
  match template with
  | .str s =>
    let argumentType := match type with
      | .str "default" => none
      | _ => some type.text
    .ok [(p.key valueType argumentType, s)]
  | _ => .error (.badArgument p.predicate type.text)

/-- A section of a template for one type of value: its text or its argument types. -/
def ofInnerSection (p : Place) (valueType : Option String) (name body : Value) : Assignments :=
  match name, body with
  | .str "text", .str s => .ok [(p.key valueType none, s)]
  | .str "arg", .map types => ofEntries (ofArgument p valueType) types
  | _, _ => .error (.badSection name.text p.predicate)

/-- A string, or sections. -/
def ofBody (p : Place) (valueType : Option String) (ofSection : Value → Value → Assignments)
    (body : Value) : Assignments :=
  match body with
  | .str s => .ok [(p.key valueType none, s)]
  | .map sections => ofEntries ofSection sections
  | _ => .error (.badTemplate p.predicate)

/-- The template for one type of value. -/
def ofValueType (p : Place) (type body : Value) : Assignments :=
  ofBody p (some type.text) (ofInnerSection p (some type.text)) body

/-- A section of a template: as for one type of value, or the types of value. -/
def ofSection (p : Place) (name body : Value) : Assignments :=
  match name, body with
  | .str "value", .map types => ofEntries (ofValueType p) types
  | _, _ => ofInnerSection p none name body

/-- The template of a predicate. -/
def ofTemplate (p : Place) (body : Value) : Assignments := ofBody p none (ofSection p) body

/-- The messages of a field. -/
def ofRule (locale : String) (scope : Option String) (rule predicates : Value) : Assignments :=
  match predicates with
  | .map entries =>
    ofEntries (fun k v => ofTemplate ⟨locale, scope, some rule.text, k.text⟩ v) entries
  | _ => .error (.badRule rule.text)

/-- A key under `errors` or in a scope. What other keys hold is decided by the last argument. -/
def ofErrorsEntry (locale : String) (scope : Option String) (other : String → Value → Assignments)
    (key v : Value) : Assignments :=
  let name := key.text
  if name.endsWith "?" then ofTemplate ⟨locale, scope, none, name⟩ v
  else if name = "rules" then
    match v with
    | .map rules => ofEntries (ofRule locale scope) rules
    | _ => .error (.badRules locale)
  else other name v

/-- A scope: the same layout again, without further scopes. -/
def ofScope (locale name : String) (v : Value) : Assignments :=
  match v with
  | .map entries =>
    ofEntries (ofErrorsEntry locale (some name) fun key _ => .error (.badKey key locale)) entries
  | _ => .error (.badKey name locale)

/-- A locale and what it holds. -/
def ofLocale (locale v : Value) : Assignments :=
  match v with
  | .map entries =>
    match Value.lookup (.str "errors") entries with
    | some (.map errors) =>
      ofEntries (ofErrorsEntry locale.text none (ofScope locale.text)) errors
    | _ => .error (.noErrors locale.text)
  | _ => .error (.noErrors locale.text)

/-- All templates of a layout, in the order in which they are written. -/
def assignments (data : Value) : Assignments :=
  match data with
  | .map locales => ofEntries ofLocale locales
  | _ => .error .noLocales

end Layout

/-- The table of a layout. -/
def MessageTable.ofLayout (data : Value) : Except LayoutError MessageTable := do
  return .ofList (← Layout.assignments data)

end Rulebook
