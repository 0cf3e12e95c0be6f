import Rulebook.Pattern.Reader
import Rulebook.Pattern.Matcher

/-!
Searching texts for a regular expression.
-/

namespace Rulebook

/-- A regular expression that has been read. -/
structure Pattern where
  program : Pattern.Program
  options : Pattern.Options

namespace Pattern

/-- Reads an expression, for texts or for bytes. Bytes have no letters beyond ASCII. -/
def read (forText : Bool) (cs : List Char) : Except Error Pattern := do
  let source ← Source.read forText cs
  let options := { source.options with ascii := source.options.ascii || !forText }
  return ⟨.ofItems options source.groups source.items, source.options⟩

/-- Reads an expression for texts. -/
def ofText (s : String) : Except Error Pattern := read true s.toList

/-- Reads an expression for bytes. -/
def ofBytes (bytes : List UInt8) : Except Error Pattern :=
  read false (bytes.map fun b => Char.ofNat b.toNat)

/-- What a search finds. -/
inductive Finding where
  | absent
  | found
  /-- A match in which a group ends before it starts. -/
  | reversedGroup
  deriving DecidableEq, Repr

/-- Searches a text for the first place where the expression matches. -/
def search (p : Pattern) (s : String) : Finding :=
  match p.program.find? s.toList.toArray with
  | none => .absent
  | some t => if t.hasReversed p.program.groups then .reversedGroup else .found

end Pattern
end Rulebook
