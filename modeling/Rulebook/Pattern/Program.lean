import Rulebook.Pattern.Width
import Rulebook.Pattern.CharTest

/-!
Regular expressions made ready for matching: the options of every part are resolved, and repetitions
of a single character are told apart from others. Where a match can start at all is found out
beforehand.
-/

namespace Rulebook.Pattern

/-- Conditions on a place in the text, with the options resolved. -/
inductive Place where
  | textStart
  | textEnd
  /-- The end of the text or the line end that closes it. -/
  | lastLineEnd
  | lineStart
  | lineEnd
  | boundary (negated ascii : Bool)
  deriving DecidableEq, Repr

def Anchor.place (o : Options) : Anchor → Place
  | .textStart => .textStart
  | .textEnd => .textEnd
  | .lineStart => if o.multiline then .lineStart else .textStart
  | .lineEnd => if o.multiline then .lineEnd else .lastLineEnd
  | .boundary negated => .boundary negated o.ascii

/-- A step of matching. -/
inductive Step where
  | one (test : CharTest)
  | at (place : Place)
  /-- Notes the place under a number; a group has one mark at its start and the next at its end. -/
  | mark (index : Nat)
  | recall (index : Nat) (folding : Folding)
  | branch (branches : List (List Step))
  /-- A repetition of a single character. -/
  | run (greed : Greed) (least : Nat) (most : Option Nat) (test : CharTest)
  /-- A repetition of steps that gives back what it has taken if the match fails. -/
  | loop (isLazy : Bool) (least : Nat) (most : Option Nat) (body : List Step)
  /-- A repetition of steps that keeps what it has taken. -/
  | keep (least : Nat) (most : Option Nat) (body : List Step)
  | atomic (body : List Step)
  /-- A condition on the text from so many characters before the place. -/
  | look (back : Nat) (negated : Bool) (body : List Step)
  | given (index : Nat) (yes no : List Step)

/-- The mark at the start of a group; groups are counted from one. -/
def startMark (index : Nat) : Nat := 2 * (index - 1)

/-- The mark at the end of a group. -/
def endMark (index : Nat) : Nat := startMark index + 1

/-- Whether a part stands for a single character, however options are switched around it. -/
def Item.isUnit : Item → Bool
  | .char _ _ | .oneOf _ _ | .any => true
  | .group none _ [item] => item.isUnit
  | _ => false

/-- The step of a repetition. -/
def Step.repetition (greed : Greed) (least : Nat) (most : Option Nat) (isUnit : Bool)
    (body : List Step) : Step :=
  match isUnit, body, greed with
  | true, [.one test], _ => .run greed least most test
  | _, _, .greedy => .loop false least most body
  | _, _, .lazy => .loop true least most body
  | _, _, .possessive => .keep least most body

mutual

/-- The steps of a part under options. -/
def Item.steps (o : Options) : Item → List Step
  | .char negated code => [.one (.ofChar o negated code)]
  | .oneOf negated members => [.one (.ofMembers o negated members)]
  | .any => [.one (.ofPoint o)]
  | .anchor a => [.at (a.place o)]
  | .recall index _ => [.recall index o.folding]
  | .alternatives branches => [.branch (branchSteps o branches)]
  | .group none switch body => stepsOf (o.adjust switch) body
  | .group (some index) switch body =>
    .mark (startMark index) :: stepsOf (o.adjust switch) body ++ [.mark (endMark index)]
  | .atomic body => [.atomic (stepsOf o body)]
  | .loop greed least most body =>
    let isUnit := match body with
      | [item] => item.isUnit
      | _ => false
    [.repetition greed least most isUnit (stepsOf o body)]
  | .look behind negated body =>
    [.look (if behind then (sequenceWidth body).least else 0) negated (stepsOf o body)]
  | .given index yes no => [.given index (stepsOf o yes) (stepsOf o no)]

/-- The steps of parts one after another. -/
def stepsOf (o : Options) : List Item → List Step
  | [] => []
  | item :: rest => item.steps o ++ stepsOf o rest

def branchSteps (o : Options) : List (List Item) → List (List Step)
  | [] => []
  | branch :: rest => stepsOf o branch :: branchSteps o rest

end

/-! ## Where a match can start -/

/-- What is known of the first character of every match. -/
inductive Start where
  | unknown
  /-- There is one, and matching the expression tests it. -/
  | tested
  | oneOf (s : CharSet)
  deriving DecidableEq, Repr

mutual

/-- Whether parts begin with a character that has to be there exactly: yes, no, or not decided
because they are empty. -/
def Item.startsExactly? (o : Options) : Item → Option Bool
  | .char false code => some (!o.folding.changes code code)
  | .group _ switch body => startExactly? (o.adjust switch) body
  | _ => some false

def startExactly? (o : Options) : List Item → Option Bool
  | [] => none
  | item :: rest =>
    match item.startsExactly? o with
    | none => startExactly? o rest
    | decided => decided

end

/-- Whether a member of a class is the same in both cases, as far as that is looked at. -/
def Member.isUncased (f : Folding) : Member → Bool
  | .code n => !f.changes n n
  | .range low high => f = .exact || high ≤ basicLimit && !f.changes low high
  | .category _ _ => true

/-- The class of the first characters of branches that all begin with a character exactly. -/
def branchHeads (f : Folding) : List (List Item) → Option (List Member)
  | [] => some []
  | (.char false code :: _) :: rest =>
    if f.changes code code then none else (branchHeads f rest).map (.code code :: ·)
  | _ :: _ => none

/-- The class of the first character of every match, if a class is written there: whether it is
negated, and its members. -/
def Item.firstClass? (o : Options) : Item → Option (Bool × List Member)
  | .group _ switch (item :: _) => item.firstClass? (o.adjust switch)
  | .oneOf negated members =>
    if members.all (·.isUncased o.folding) then some (negated, members) else none
  | .alternatives branches => (branchHeads o.folding branches).map (false, ·)
  | _ => none

/-- What is known of the first character of every match of some parts. The class is one of the whole
expression: its named classes are those of the options outside. -/
def Start.ofItems (o : Options) (items : List Item) : Start :=
  if (sequenceWidth items).least = 0 then .unknown
  else if startExactly? o items = some true then .tested
  else match items.head?.bind (·.firstClass? o) with
    | some (negated, members) => .oneOf ⟨.exact, negated, members, o.ascii⟩
    | none => .unknown

/-- A regular expression that is ready for matching. -/
structure Program where
  steps : List Step
  /-- The least number of characters of a match. -/
  least : Nat
  start : Start
  /-- The number of groups. -/
  groups : Nat

/-- The program of parts under the options of the whole expression. -/
def Program.ofItems (o : Options) (groups : Nat) (items : List Item) : Program :=
  ⟨stepsOf o items, (sequenceWidth items).least, .ofItems o items, groups⟩

end Rulebook.Pattern
