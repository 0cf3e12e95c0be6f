import Rulebook.Pattern.Syntax

/-!
How many characters the parts of a regular expression can match.
-/

namespace Rulebook.Pattern

/-- The number of repetitions that stands for no limit; greater ones cannot be written. -/
def repeatLimit : Nat := 4294967295

namespace Width

def zero : Width := ⟨0, 0⟩
def one : Width := ⟨1, 1⟩

def add (a b : Width) : Width := ⟨a.least + b.least, a.most + b.most⟩

def join (a b : Width) : Width := ⟨min a.least b.least, max a.most b.most⟩

def times (a : Width) (least : Nat) (most : Option Nat) : Width :=
  ⟨a.least * least, a.most * most.getD repeatLimit⟩

/-- The width of a sequence: numbers at the limit are not told apart. A least width is always
finite. -/
def capped (a : Width) : Width := ⟨min a.least (repeatLimit - 1), min a.most repeatLimit⟩

end Width

mutual

/-- The width of a part, before it is capped. -/
def Item.width : Item → Width
  | .char _ _ | .oneOf _ _ | .any => .one
  | .anchor _ | .look _ _ _ => .zero
  | .recall _ width => width
  | .alternatives branches => branchesWidth branches
  | .group _ _ body | .atomic body => (widthOf body).capped
  | .loop _ least most body => (widthOf body).capped.times least most
  | .given _ yes no => (widthOf yes).capped.join (widthOf no).capped

/-- The width of parts one after another, before it is capped. -/
def widthOf : List Item → Width
  | [] => .zero
  | item :: rest => item.width.add (widthOf rest)

def branchesWidth : List (List Item) → Width
  | [] => .zero
  | [branch] => (widthOf branch).capped
  | branch :: rest => (widthOf branch).capped.join (branchesWidth rest)

end

/-- The width of parts one after another. -/
def sequenceWidth (items : List Item) : Width := (widthOf items).capped

/-- The widths from this one on are too great for a condition on preceding text. -/
def lookLimit : Nat := 2147483648

/-- Whether a part is a condition on preceding text without one fixed width. -/
def Item.looksBackUnevenly : Item → Bool
  | .look true _ body =>
    let w := sequenceWidth body
    w.least != w.most
  | _ => false

/-- Whether a part is a condition on text too far before the place. -/
def Item.looksTooFarBack : Item → Bool
  | .look true _ body => lookLimit ≤ (sequenceWidth body).least
  | _ => false

def Item.isLoop : Item → Bool
  | .loop _ _ _ _ => true
  | _ => false

end Rulebook.Pattern
