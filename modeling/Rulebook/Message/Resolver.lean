import Rulebook.Message.English
import Rulebook.Message.Template
import Rulebook.Message.TypeName
import Rulebook.Report.Basic
import Rulebook.Log

/-!
Messages for failed checks. The template is looked up in the requested locale and then in the
default one; its slots show the value, the bound arguments and the name of the field.
-/

namespace Rulebook

/-- Why a failed check has no message. -/
inductive MessageError where
  /-- No template answers the query in any locale that was asked. -/
  | missing (predicate : String) (rule scope : Option String) (locale : String)
  | unknownSlot (e : UnknownSlot)
  deriving DecidableEq, Repr

/-- The literal text of a text that may be missing. -/
def optionalLiteral : Option String → String
  | some s => Text.quoted s
  | none => Value.null.literal

def MessageError.message : MessageError → String
  | .missing predicate rule scope locale =>
    "No message template for predicate '" ++ predicate ++ "' (rule=" ++ optionalLiteral rule
      ++ ", namespace=" ++ optionalLiteral scope ++ ", locale=" ++ Text.quoted locale ++ ")"
  | .unknownSlot e => e.message

namespace Entry

/-- The values that templates may show. A bound argument stands under its name, a progression also
by its two ends, and the name of the field comes last. -/
def slotValues (e : Entry) : OrderedMap String Value :=
  let argument (found : OrderedMap String Value) (a : String × Value) : OrderedMap String Value :=
    let found := found.put a.1 a.2
    match a.2 with
    | .atom (.span s) => (found.put "left" (.int s.left)).put "right" (.int s.right)
    | _ => found
  (e.arguments.foldl argument (OrderedMap.empty.put "value" e.value)).put "name" e.name

/-- The field whose own messages are asked first: only strings name one. -/
def ruleName (e : Entry) : Option String := e.name.text?

/-- The types of the first bound argument. -/
def argumentTypes (e : Entry) : List String :=
  match e.argumentValues with
  | [] => []
  | v :: _ => v.typeNames

end Entry

/-- A table together with the scope and the locale to be asked. -/
structure MessageResolver where
  table : MessageTable
  scope : Option String := none
  locale : String := defaultLocale

namespace MessageResolver

/-- The locale asked first: the one of the call unless it is missing or empty. -/
def requested (r : MessageResolver) (locale : Option String) : String :=
  match locale with
  | some l => if l.isEmpty then r.locale else l
  | none => r.locale

/-- The locales in the order in which they are asked. -/
def locales (r : MessageResolver) (locale : Option String) : List String :=
  let first := r.requested locale
  if first = defaultLocale then [first] else [first, defaultLocale]

/-- What is looked up for an entry in a locale. -/
def query (r : MessageResolver) (e : Entry) (locale : String) : MessageQuery :=
  { predicate := e.predicate, scope := r.scope, rule := e.ruleName,
    argumentTypes := e.argumentTypes, valueTypes := e.value.typeNames, locale }

/-- The first locale with a template for an entry, and the template. -/
def find? (r : MessageResolver) (e : Entry) (locale : Option String) : Option (String × String) :=
  (r.locales locale).findSome? fun l => (r.table.lookup (r.query e l)).map (l, ·)

/-- The template for an entry. Falling back to another locale is recorded. -/
def templateFor (r : MessageResolver) (e : Entry) (locale : Option String) :
    Logged MessageError String := do
  let first := r.requested locale
  match r.find? e locale with
  | some (l, template) =>
    if l ≠ first then
      Logged.write .debug .resolver
        ("No '" ++ first ++ "' message for " ++ e.predicate ++ ", using '" ++ l ++ "'")
    return template
  | none => throw (.missing e.predicate e.ruleName r.scope first)

/-- The message for an entry. -/
def resolve (r : MessageResolver) (e : Entry) (locale : Option String) :
    Logged MessageError String := do
  let template ← r.templateFor e locale
  match interpolate template e.slotValues with
  | .ok s => return s
  | .error e => throw (.unknownSlot e)

/-- A report with messages in the place of entries. -/
def messages (r : MessageResolver) (document : Document) (locale : Option String) :
    Logged MessageError (Fields String) :=
  Report.traverseFields (fun e => r.resolve e locale) document

end MessageResolver
end Rulebook
