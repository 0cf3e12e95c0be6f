import Rulebook.Value.Text
import Rulebook.Fault

/-!
Writing values in JSON notation, one item to a line, each level two spaces further in. Strings are
kept to ASCII. Values that the notation lacks are written as strings of their plain text; a map can
be written only if its keys are strings, numbers, truth values or null.
-/

namespace Rulebook.Json

/-- A unit of a code point above the first plane, or of one below it. -/
def unitText (n : Nat) : List Char := '\\' :: 'u' :: Text.hexDigits 4 n

/-- One character inside quotes. -/
def charText (c : Char) : List Char :=
  match c with
  | '"' => ['\\', '"']
  | '\\' => ['\\', '\\']
  | '\n' => ['\\', 'n']
  | '\r' => ['\\', 'r']
  | '\t' => ['\\', 't']
  | '\x0c' => ['\\', 'f']
  | '\x08' => ['\\', 'b']
  | _ =>
    let n := c.toNat
    if 32 ≤ n ∧ n < 127 then [c]
    else if n < 0x10000 then unitText n
    else unitText (0xD800 + (n - 0x10000) / 0x400) ++ unitText (0xDC00 + (n - 0x10000) % 0x400)

/-- A string in quotes. -/
def stringText (s : String) : String :=
  String.ofList ('"' :: s.toList.flatMap charText ++ ['"'])

/-- A double, with words for NaN and the infinities. -/
def doubleText : Double → String
  | .nan _ => "NaN"
  | .infinity negative => if negative then "-Infinity" else "Infinity"
  | x => x.text

/-- An atom that stands in the document. Integers are written however many digits they have. -/
def atomText : Atom → String
  | .null => "null"
  | .bool b => if b then "true" else "false"
  | .int n => toString n
  | .float x => doubleText x
  | .str s => stringText s
  | other => stringText other.text

/-- The text of a key. -/
def keyText : Value → Except Fault String
  | .str s => .ok (stringText s)
  | .null => .ok (stringText "null")
  | .bool b => .ok (stringText (if b then "true" else "false"))
  | .int n => .ok (stringText (toString n))
  | .atom (.float x) => .ok (stringText (doubleText x))
  | _ => .error .unsupported

/-- A line end and the indentation of a level. -/
def newline (level : Nat) : String := String.ofList ('\n' :: List.replicate (2 * level) ' ')

/-- Lines between an opening and a closing mark. -/
def block (level : Nat) (first last : String) (lines : List String) : String :=
  if lines.isEmpty then first ++ last
  else
    let inner := newline (level + 1)
    first ++ inner ++ joined ("," ++ inner) lines ++ newline level ++ last

mutual

/-- A value at a level of indentation. -/
def valueText (level : Nat) : Value → Except Fault String
  | .atom a => .ok (atomText a)
  | .seq _ items => do return block level "[" "]" (← itemTexts (level + 1) items)
  | .set kind members => .ok (stringText (Value.set kind members).text)
  | .map entries => do return block level "\x7b" "\x7d" (← entryTexts (level + 1) entries)

def itemTexts (level : Nat) : List Value → Except Fault (List String)
  | [] => .ok []
  | v :: rest => do
    let line ← valueText level v
    return line :: (← itemTexts level rest)

def entryTexts (level : Nat) : List (Value × Value) → Except Fault (List String)
  | [] => .ok []
  | (k, v) :: rest => do
    let key ← keyText k
    let line ← valueText level v
    return (key ++ ": " ++ line) :: (← entryTexts level rest)

end

/-- The document that holds a value. -/
def write (v : Value) : Except Fault String := valueText 0 v

end Rulebook.Json
