import Rulebook.Value.Basic
import Rulebook.Number.Shortest
import Rulebook.Text.Quoted
import Rulebook.Pattern.Search

/-!
The two texts of a value. The plain text of a string is the string itself; the literal text shows
the kind of every value and puts strings in quotes. Parts of sequences, sets and maps are always
literal.
-/

namespace Rulebook

/-- Texts with a separator between them. -/
def joined (separator : String) : List String → String
  | [] => ""
  | [s] => s
  | s :: rest => s ++ separator ++ joined separator rest

/-- A name with arguments in parentheses. -/
def application (name : String) (arguments : List String) : String :=
  name ++ "(" ++ joined ", " arguments ++ ")"

namespace Calendar

def dateArguments (d : Date) : List String :=
  [toString d.year, toString d.month, toString d.day]

/-- A duration of less than a day either way, in microseconds: days, seconds and microseconds as
far as they are not zero. A negative one is a day less plus a positive rest. -/
def durationLiteral (duration : Int) : String :=
  let seconds := Int.fdiv duration Clock.perSecond
  let parts := [("days", Int.fdiv seconds 86400), ("seconds", Int.fmod seconds 86400),
    ("microseconds", Int.fmod duration Clock.perSecond)]
  application "datetime.timedelta"
    ((parts.filter (·.2 != 0)).map fun (name, n) => name ++ "=" ++ toString n)

def offsetLiteral (offset : Int) : String :=
  if offset = 0 then "datetime.timezone.utc"
  else application "datetime.timezone" [durationLiteral offset]

/-- Hours and minutes, then seconds and microseconds as far as they are not zero, then the
offset. -/
def clockArguments (c : Clock) : List String :=
  [toString c.hour, toString c.minute]
    ++ (if c.second = 0 && c.microsecond = 0 then [] else [toString c.second])
    ++ (if c.microsecond = 0 then [] else [toString c.microsecond])
    ++ (match c.offset with
        | none => []
        | some offset => ["tzinfo=" ++ offsetLiteral offset])

end Calendar

namespace Pattern

/-- The names of the options that are on, in a fixed order. -/
def Options.names (o : Options) : List String :=
  [(o.template, "re.TEMPLATE"), (o.ignoreCase, "re.IGNORECASE"), (o.locale, "re.LOCALE"),
    (o.multiline, "re.MULTILINE"), (o.dotAll, "re.DOTALL"), (o.verbose, "re.VERBOSE"),
    (o.ascii, "re.ASCII")].filterMap fun (on, name) => if on then some name else none

/-- The longest part of an expression's quoted text that is shown. -/
def shownLength : Nat := 200

/-- The literal text of an expression: its text in quotes, cut off when long, and its options. -/
def literal (source : String) : String :=
  let shown := String.ofList ((Text.quotedChars source.toList).take shownLength)
  let names := match Pattern.ofText source with
    | .ok p => p.options.names
    | .error _ => []
  application "re.compile" (shown :: if names.isEmpty then [] else [joined "|" names])

end Pattern

namespace Atom

/-- The literal text of an atom. An integer has one however many digits it has: a limit that an
interpreter may be set to is not part of this. -/
def literal : Atom → String
  | .null => "None"
  | .absent => "ABSENT"
  | .bool b => if b then "True" else "False"
  | .int n => toString n
  | .float x => x.text
  | .decimal d => application "Decimal" ["'" ++ d.text ++ "'"]
  | .str s => Text.quoted s
  | .bytes bs => Text.quotedBytes bs
  | .date d => application "datetime.date" (Calendar.dateArguments d)
  | .moment m =>
    application "datetime.datetime"
      (Calendar.dateArguments m.date ++ Calendar.clockArguments m.clock)
  | .clock c => application "datetime.time" (Calendar.clockArguments c)
  | .span s =>
    application "range" ([toString s.start, toString s.stop]
      ++ if s.step = 1 then [] else [toString s.step])
  | .pattern source => Pattern.literal source

/-- The plain text of an atom. -/
def text : Atom → String
  | .str s => s
  | .decimal d => d.text
  | .date d => d.text
  | .moment m => m.textWith ' '
  | .clock c => c.text
  | other => other.literal

end Atom

namespace Value

mutual

/-- The literal text of a value. -/
def literal : Value → String
  | .atom a => a.literal
  | .seq .list items => "[" ++ joined ", " (literals items) ++ "]"
  | .seq .tuple [item] => "(" ++ item.literal ++ ",)"
  | .seq .tuple items => "(" ++ joined ", " (literals items) ++ ")"
  | .set .plain [] => "set()"
  | .set .plain members => "\x7b" ++ joined ", " (literals members) ++ "\x7d"
  | .set .frozen [] => "frozenset()"
  | .set .frozen members => "frozenset(\x7b" ++ joined ", " (literals members) ++ "\x7d)"
  | .map entries => "\x7b" ++ joined ", " (entryLiterals entries) ++ "\x7d"

def literals : List Value → List String
  | [] => []
  | v :: rest => v.literal :: literals rest

def entryLiterals : List (Value × Value) → List String
  | [] => []
  | (k, v) :: rest => (k.literal ++ ": " ++ v.literal) :: entryLiterals rest

end

/-- The plain text of a value. -/
def text : Value → String
  | .atom a => a.text
  | other => other.literal

end Value
end Rulebook
