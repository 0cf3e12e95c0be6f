import Rulebook.Pattern.Syntax
import Rulebook.Text.Word
import Rulebook.Text.Digit
import Rulebook.Text.Blank
import Rulebook.Text.Case

/-!
What a single character of the text is tested against, with the options resolved. Where case is
ignored, the character is first folded to lower case. A class is then taken as everything that folds
to the same letters as one of its members; but a single character beyond the basic plane stands only
for itself there, and a range beyond it is compared with both forms.
-/

namespace Rulebook.Pattern

/-- How characters are folded before they are compared. -/
inductive Folding where
  | exact
  /-- The letters A to Z alone. -/
  | ascii
  /-- The letters of all scripts. -/
  | full
  deriving DecidableEq, Repr

/-- The folding that options ask for. -/
def Options.folding (o : Options) : Folding :=
  if !o.ignoreCase then .exact else if o.ascii then .ascii else .full

namespace Folding

def apply : Folding → Nat → Nat
  | .exact, n => n
  | .ascii, n => Text.lowerAscii n
  | .full, n => Text.lower n

/-- The code points that stand for a folded one. -/
def origins : Folding → Nat → List Nat
  | .exact, n => [n]
  | .ascii, n => Text.raisedAscii n
  | .full, n => (Text.alike n).flatMap Text.raised

/-- Whether some code point of a range has another form. -/
def changes : Folding → Nat → Nat → Bool
  | .exact, _, _ => false
  | .ascii, low, high => Text.hasCasedAscii low high
  | .full, low, high => Text.hasCased low high

end Folding

/-- Whether a named class has a code point. -/
def Category.contains (ascii : Bool) (c : Category) (n : Nat) : Bool :=
  if ascii && 128 ≤ n then false
  else match c with
    | .digit => Text.isDigit n
    | .blank => if ascii then n = 32 || 9 ≤ n && n ≤ 13 else Text.isBlank n
    | .word => Text.isWord n

/-- The last code point of the basic plane. -/
def basicLimit : Nat := 0xFFFF

/-- Whether a member brings letters of both cases into a class, under a folding. -/
def Member.isCased (f : Folding) : Member → Bool
  | .code n => f != .exact && basicLimit < n || f.changes n n
  | .range low high => f != .exact && basicLimit < high || f.changes low high
  | .category _ _ => false

/-- A set of characters, given by members or by what it leaves out. -/
structure CharSet where
  folding : Folding
  negated : Bool
  members : List Member
  /-- Whether named classes hold ASCII characters alone. -/
  ascii : Bool
  deriving DecidableEq, Repr

namespace CharSet

/-- Whether a member accounts for a code point that is folded already. -/
def covers (s : CharSet) (n : Nat) : Member → Bool
  | .category c negated => c.contains s.ascii n != negated
  | .code m => if m ≤ basicLimit then (s.folding.origins n).contains m else m = n
  | .range low high =>
    let within (m : Nat) : Bool := low ≤ m && m ≤ high
    (s.folding.origins n).any (fun m => m ≤ basicLimit && within m)
      || basicLimit < high && (within n || s.folding != .exact && within (Text.upper n))

/-- Whether the set has a code point. -/
def contains (s : CharSet) (n : Nat) : Bool :=
  s.members.any (s.covers (s.folding.apply n)) != s.negated

end CharSet

/-- What one character of the text is tested against. -/
inductive CharTest where
  /-- One character, or any other one; the code point is folded. -/
  | literal (folding : Folding) (negated : Bool) (code : Nat)
  | set (s : CharSet)
  /-- Every character passes. -/
  | any
  deriving DecidableEq, Repr

namespace CharTest

def accepts : CharTest → Nat → Bool
  | .literal folding negated code, n => (folding.apply n = code) != negated
  | .set s, n => s.contains n
  | .any, _ => true

/-- The test for one character, or for any other one. -/
def ofChar (o : Options) (negated : Bool) (code : Nat) : CharTest :=
  if !o.folding.changes code code then .literal .exact negated code
  else
    let folded := o.folding.apply code
    if o.folding = .full && 1 < (Text.alike folded).length then
      .set ⟨.full, negated, [.code folded], o.ascii⟩
    else .literal o.folding negated folded

/-- The test for a class. Without a letter that has two forms, nothing is folded. -/
def ofMembers (o : Options) (negated : Bool) (members : List Member) : CharTest :=
  .set ⟨if members.any (·.isCased o.folding) then o.folding else .exact, negated, members, o.ascii⟩

/-- The test for a point: all characters, or all but the line end. -/
def ofPoint (o : Options) : CharTest := if o.dotAll then .any else .literal .exact true 10

/-- The character that the test asks for, if it asks for one exactly. -/
def exactly? : CharTest → Option Nat
  | .literal .exact false code => some code
  | _ => none

/-- Whether the test is one of a set whose characters are not folded. -/
def isPlainSet : CharTest → Bool
  | .set s => s.folding = .exact
  | _ => false

/-- Whether the test is one of a set whose characters are folded. -/
def isFoldedSet : CharTest → Bool
  | .set s => s.folding != .exact
  | _ => false

end CharTest
end Rulebook.Pattern
