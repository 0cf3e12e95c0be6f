/-!
Regular expressions as trees, in the form in which they are written: where a part switches options
is part of the tree.
-/

namespace Rulebook.Pattern

/-- Options of a whole expression or of a part of it. -/
structure Options where
  ignoreCase : Bool := false
  multiline : Bool := false
  dotAll : Bool := false
  verbose : Bool := false
  ascii : Bool := false
  unicode : Bool := false
  locale : Bool := false
  template : Bool := false
  deriving DecidableEq, Repr

namespace Options

/-- The options set in one of the two. -/
def union (a b : Options) : Options :=
  ⟨a.ignoreCase || b.ignoreCase, a.multiline || b.multiline, a.dotAll || b.dotAll,
    a.verbose || b.verbose, a.ascii || b.ascii, a.unicode || b.unicode, a.locale || b.locale,
    a.template || b.template⟩

/-- The options set in the first and not in the second. -/
def minus (a b : Options) : Options :=
  ⟨a.ignoreCase && !b.ignoreCase, a.multiline && !b.multiline, a.dotAll && !b.dotAll,
    a.verbose && !b.verbose, a.ascii && !b.ascii, a.unicode && !b.unicode, a.locale && !b.locale,
    a.template && !b.template⟩

/-- The options that choose an alphabet; at most one of them may be on. -/
def alphabet (a : Options) : Options :=
  { ascii := a.ascii, unicode := a.unicode, locale := a.locale }

end Options

/-- Options that a part turns on and off. -/
structure Switch where
  on : Options := {}
  off : Options := {}
  deriving DecidableEq, Repr

/-- The options of a part that switches some. An alphabet replaces the one before. -/
def Options.adjust (a : Options) (s : Switch) : Options :=
  let a := if s.on.alphabet = {} then a else a.minus a.alphabet
  (a.union s.on).minus s.off

/-- The named classes of characters. -/
inductive Category where
  | digit
  | blank
  | word
  deriving DecidableEq, Repr

/-- A member of a character class. -/
inductive Member where
  | code (n : Nat)
  | range (low high : Nat)
  | category (c : Category) (negated : Bool)
  deriving DecidableEq, Repr

/-- Conditions on a place in the text. -/
inductive Anchor where
  | textStart
  | textEnd
  /-- The start of the text, or of a line under an option. -/
  | lineStart
  /-- The end of the text or the line end that closes it, or any line end under an option. -/
  | lineEnd
  /-- Between a word character and another one, or nowhere there. -/
  | boundary (negated : Bool)
  deriving DecidableEq, Repr

/-- Which number of repetitions is tried first, and whether others are tried at all. -/
inductive Greed where
  | greedy
  | lazy
  | possessive
  deriving DecidableEq, Repr

/-- The least and the greatest number of characters that a part can match. -/
structure Width where
  least : Nat
  most : Nat
  deriving DecidableEq, Repr

/-- A part of a regular expression. -/
inductive Item where
  /-- One character, or any other one. -/
  | char (negated : Bool) (code : Nat)
  /-- A character of a class, or none of it. -/
  | oneOf (negated : Bool) (members : List Member)
  /-- Any character; a line end only under an option. -/
  | any
  | anchor (place : Anchor)
  /-- The text matched by a group, of which the width is known. -/
  | recall (index : Nat) (width : Width)
  | alternatives (branches : List (List Item))
  /-- Parts taken together, under a number if their match can be recalled. -/
  | group (index : Option Nat) (switch : Switch) (body : List Item)
  /-- Parts that keep their first match. -/
  | atomic (body : List Item)
  | loop (greed : Greed) (least : Nat) (most : Option Nat) (body : List Item)
  /-- A condition on the text that follows, or on the text before the place. -/
  | look (behind negated : Bool) (body : List Item)
  /-- A choice that depends on whether a group has matched. -/
  | given (index : Nat) (yes no : List Item)

/-- Why a text is not a regular expression. -/
inductive Error where
  /-- The text does not follow the notation. -/
  | malformed
  /-- A number of repetitions is too large. -/
  | countTooLarge
  /-- Two options exclude each other. -/
  | conflictingOptions
  /-- A condition on preceding text looks back too far. -/
  | looksTooFarBack
  deriving DecidableEq, Repr

namespace Item

/-- Whether two parts are the same part that holds no others. -/
def sameUnit : Item → Item → Bool
  | .char a m, .char b n => a = b && m = n
  | .oneOf a xs, .oneOf b ys => a = b && xs = ys
  | .any, .any => true
  | .anchor a, .anchor b => a = b
  | .recall a _, .recall b _ => a = b
  | _, _ => false

/-- The members of the class that stands for a part, if a class does. -/
def members? : Item → Option (List Member)
  | .char false n => some [.code n]
  | .oneOf false members => some members
  | _ => none

/-- The part for a character class. A class of one character is that character. -/
def ofMembers (negated : Bool) (members : List Member) : Item :=
  match members.eraseDups with
  | [.code n] => .char negated n
  | distinct => .oneOf negated distinct

end Item

/-- The first part that all branches share, with the rest of each branch. -/
def sharedHead : List (List Item) → Option (Item × List (List Item))
  | [] => none
  | [] :: _ => none
  | (head :: rest) :: branches =>
    let cut (branch : List Item) : Option (List Item) :=
      match branch with
      | other :: rest => if other.sameUnit head then some rest else none
      | [] => none
    (branches.mapM cut).map fun others => (head, rest :: others)

/-- Alternatives as parts. What all branches begin with is taken out in front of them, and branches
of one character each are a class. -/
def choice (fuel : Nat) (branches : List (List Item)) : List Item :=
  let asBranches : Item :=
    let single (branch : List Item) : Option (List Member) :=
      match branch with
      | [item] => item.members?
      | _ => none
    match branches.mapM single with
    | some members => .oneOf false members.flatten.eraseDups
    | none => .alternatives branches
  match fuel, sharedHead branches with
  | fuel + 1, some (head, rest) => head :: choice fuel rest
  | _, _ => [asBranches]

/-- The parts that some branches stand for; a single branch stands for itself. -/
def ofBranches : List (List Item) → List Item
  | [] => []
  | [branch] => branch
  | first :: others => choice first.length (first :: others)

/-- Parts of which those that only hold other parts together are replaced by these. -/
def spliced (items : List Item) : List Item :=
  items.flatMap fun item =>
    match item with
    | .group none switch body => if switch = {} then body else [item]
    | _ => [item]

mutual

/-- Whether a part or one inside of it is of a kind. -/
def Item.includes (kind : Item → Bool) (item : Item) : Bool :=
  kind item || match item with
    | .alternatives branches => includesInBranches kind branches
    | .group _ _ body | .atomic body | .loop _ _ _ body | .look _ _ body => includesIn kind body
    | .given _ yes no => includesIn kind yes || includesIn kind no
    | _ => false

def includesIn (kind : Item → Bool) : List Item → Bool
  | [] => false
  | item :: rest => item.includes kind || includesIn kind rest

def includesInBranches (kind : Item → Bool) : List (List Item) → Bool
  | [] => false
  | branch :: rest => includesIn kind branch || includesInBranches kind rest

end

end Rulebook.Pattern
