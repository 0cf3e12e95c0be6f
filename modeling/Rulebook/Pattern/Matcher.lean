import Rulebook.Pattern.Program

/-!
Matching by backtracking. A step is matched at a place and then hands over to what follows it; when
that fails, the step offers its next way of matching. What a step tries first is fixed: the first
branch, and as many repetitions as possible or as few.

An attempt leaves a trail behind whether it succeeds or not: the place where it left off, and the
marks of the groups. A repetition that keeps what it has taken goes on from the place where its last
attempt left off. Marks are taken back when a way of matching is given up; inside of a loop all of
them, elsewhere only those that were not set before.
-/

namespace Rulebook.Pattern

/-- What an attempt leaves behind. -/
structure Trail where
  /-- The place where the attempt left off; after a success, the place it has reached. -/
  left : Nat
  marks : Array (Option Nat)
  deriving Repr

namespace Trail

/-- The trail with a mark set; marks before it that are new are empty. -/
def mark (t : Trail) (index place : Nat) : Trail :=
  if index < t.marks.size then { t with marks := t.marks.set! index (some place) }
  else
    let gap := Array.replicate (index - t.marks.size) none
    { t with marks := (t.marks ++ gap).push (some place) }

/-- The trail with the marks of an earlier one: inside of a loop the very same, elsewhere only those
that were set then. -/
def giveUp (inLoop : Bool) (before now : Trail) : Trail :=
  if inLoop then { now with marks := before.marks }
  else { now with marks := now.marks.extract 0 before.marks.size }

/-- Where a group started and ended, if both are marked. -/
def span? (t : Trail) (index : Nat) : Option (Nat × Nat) :=
  match t.marks[startMark index]?, t.marks[endMark index]? with
  | some (some start), some (some stop) => some (start, stop)
  | _, _ => none

/-- The stretch of text that a group has matched, unless it ends before it starts. -/
def group? (t : Trail) (index : Nat) : Option (Nat × Nat) :=
  (t.span? index).filter fun (start, stop) => start ≤ stop

/-- Whether some group ends before it starts. -/
def hasReversed (t : Trail) (groups : Nat) : Bool :=
  (List.range groups).any fun i => (t.span? (i + 1)).any fun (start, stop) => stop < start

end Trail

/-- Matching from a place on: whether it succeeds, and the trail it leaves. -/
abbrev Attempt := Nat → Trail → Bool × Trail

/-- What follows a step. -/
structure Tail where
  /-- The character that it begins with, if that is known at once. -/
  exactly? : Option Nat
  go : Attempt

/-- What follows the last step: success at the place that is reached. -/
def Tail.done : Tail := ⟨none, fun p t => (true, { t with left := p })⟩

/-- An attempt that leaves off where it began if it fails. -/
def fromHere (x : Attempt) : Attempt := fun p t =>
  match x p { t with left := p } with
  | (true, u) => (true, u)
  | (false, u) => (false, { u with left := p })

/-! ## Repetitions of steps -/

/-- So many repetitions that must take place, then something else. -/
def mustRepeat (body : Tail → Attempt) (after : Attempt) : Nat → Attempt
  | 0 => after
  | n + 1 => fromHere (body ⟨none, mustRepeat body after n⟩)

/-- Up to so many repetitions, as many as possible; one that starts where the last one started is
not made. -/
def mayRepeat (body : Tail → Attempt) (k : Tail) : Nat → Option Nat → Attempt
  | 0, _ => fromHere k.go
  | n + 1, last => fun p t =>
    if last = some p then fromHere k.go p t
    else
      match body ⟨none, mayRepeat body k n (some p)⟩ p { t with left := p } with
      | (true, u) => (true, u)
      | (false, u) => fromHere k.go p (t.giveUp true u)

/-- Up to so many repetitions, as few as possible. -/
def mayRepeatLazily (inLoop : Bool) (body : Tail → Attempt) (k : Tail) : Nat → Option Nat → Attempt
  | 0, _ => fun p t =>
    match fromHere k.go p t with
    | (true, u) => (true, u)
    | (false, u) => (false, t.giveUp inLoop u)
  | n + 1, last => fun p t =>
    match fromHere k.go p t with
    | (true, u) => (true, u)
    | (false, u) =>
      let u := t.giveUp inLoop u
      if last = some p then (false, u)
      else fromHere (body ⟨none, mayRepeatLazily inLoop body k n (some p)⟩) p u

/-- So many repetitions that must take place, each kept as first matched. -/
def mustKeep (body : Attempt) : Nat → Trail → Bool × Trail
  | 0, t => (true, t)
  | n + 1, t =>
    match body t.left t with
    | (true, u) => mustKeep body n u
    | (false, u) => (false, u)

/-- Up to so many more repetitions, each kept as first matched. The first that fails, or that
matches nothing, is the last one; what follows goes on where it left off. -/
def mayKeep (body : Attempt) : Nat → Trail → Trail
  | 0, t => t
  | n + 1, t =>
    match body t.left t with
    | (true, u) => if u.left = t.left then u else mayKeep body n u
    | (false, u) => t.giveUp true u

section
variable (text : Array Char)

def codeAt (i : Nat) : Option Nat := text[i]?.map Char.toNat

/-- Whether the character at a place passes a test. -/
def passesAt (test : CharTest) (i : Nat) : Bool :=
  if h : i < text.size then test.accepts text[i].toNat else false

/-- Whether the character at a place is a given one. -/
def isAt (code i : Nat) : Bool := if h : i < text.size then text[i].toNat = code else false

def isWordAt (ascii : Bool) (i : Nat) : Bool := (codeAt text i).any (Category.contains ascii .word)

def Place.holds (position : Nat) : Place → Bool
  | .textStart => position = 0
  | .textEnd => position = text.size
  | .lastLineEnd =>
    position = text.size || position + 1 = text.size && isAt text 10 position
  | .lineStart => position = 0 || isAt text 10 (position - 1)
  | .lineEnd => position = text.size || isAt text 10 position
  | .boundary negated ascii =>
    let before := position != 0 && isWordAt text ascii (position - 1)
    text.size != 0 && (before != isWordAt text ascii position) != negated

/-- Whether the text at a position repeats an earlier stretch of it. -/
def repeatsAt (f : Folding) (start position : Nat) : Nat → Bool
  | 0 => true
  | n + 1 =>
    match codeAt text (start + n), codeAt text (position + n) with
    | some a, some b => f.apply a = f.apply b && repeatsAt f start position n
    | _, _ => false

/-- More repetitions than a loop without a limit can make, since each of them moves on. -/
def unlimited : Nat := (text.size + 2) * (text.size + 2)

/-- How many repetitions can follow the necessary ones. -/
def extraRepeats (least : Nat) (most : Option Nat) : Nat :=
  match most with
  | some n => n - least
  | none => unlimited text

/-! ## Repetitions of a character -/

/-- How many characters from a place on pass a test, up to a number of them. -/
def countPassing (test : CharTest) (p : Nat) : Nat → Nat
  | 0 => 0
  | n + 1 => if passesAt text test p then countPassing test (p + 1) n + 1 else 0

/-- Counts characters that pass a test. Counting leaves off where it began, or behind the characters
if they are folded one by one. -/
def counted (test : CharTest) (most : Option Nat) (p : Nat) (t : Trail) : Nat × Trail :=
  let room := text.size - p
  let n := countPassing text test p (min (most.getD room) room)
  (n, { t with left := if test.isFoldedSet then p + n else p })

/-- Whether what follows cannot match at a place because it begins with another character. -/
def Tail.isBarred (k : Tail) (p : Nat) : Bool :=
  match k.exactly? with
  | some code => !isAt text code p
  | none => false

/-- Tries what follows after so many characters more than the least number, and then after fewer. -/
def giveBack (inLoop : Bool) (k : Tail) (start : Nat) (before : Trail) : Nat → Trail → Bool × Trail
  | extra, t =>
    let p := start + extra
    let here :=
      if k.isBarred text p then (false, t)
      else match k.go p { t with left := p } with
        | (true, u) => (true, u)
        | (false, u) => (false, before.giveUp inLoop u)
    match here, extra with
    | (true, u), _ => (true, u)
    | (false, u), 0 => (false, u)
    | (false, u), extra + 1 => giveBack inLoop k start before extra u

/-- Tries what follows at a place, and then after one more character, up to so many. -/
def takeMore (inLoop : Bool) (test : CharTest) (k : Tail) (before : Trail) :
    Nat → Nat → Trail → Bool × Trail
  | extra, p, t =>
    match k.go p { t with left := p } with
    | (true, u) => (true, u)
    | (false, u) =>
      let (n, v) := counted text test (some 1) p (before.giveUp inLoop u)
      match n, extra with
      | 0, _ => (false, v)
      | _, 0 => (false, v)
      | _, extra + 1 => takeMore inLoop test k before extra (p + 1) v

/-- Matches a repetition of a character and what follows it. -/
def runOf (inLoop : Bool) (greed : Greed) (least : Nat) (most : Option Nat) (test : CharTest)
    (k : Tail) : Attempt := fun p t =>
  if text.size - p < least then (false, t)
  else
    let wanted := if greed = .lazy then some least else most
    let (n, u) := counted text test wanted p t
    if n < least then (false, u)
    else match greed with
      | .greedy => giveBack text inLoop k (p + least) u (n - least) u
      | .lazy => takeMore text inLoop test k u (extraRepeats text least most) (p + n) u
      | .possessive => k.go (p + n) u

/-! ## Steps -/

/-- The character that a sequence of steps begins with, or else what follows it. -/
def headOf (steps : List Step) (otherwise : Option Nat) : Option Nat :=
  match steps with
  | [] => otherwise
  | .one test :: _ => test.exactly?
  | _ :: _ => none

/-- Whether a branch cannot match at a place because its first character is tested at once. -/
def isBarredBranch (branch : List Step) (p : Nat) : Bool :=
  match branch with
  | .one test :: _ => (test.exactly?.isSome || test.isPlainSet) && !passesAt text test p
  | _ => false

mutual

/-- Matches a step and what follows it. -/
def Step.attempt (inLoop : Bool) (step : Step) (k : Tail) : Attempt :=
  match step with
  | .one test => fun p t => if passesAt text test p then k.go (p + 1) t else (false, t)
  | .at place => fun p t => if place.holds text p then k.go p t else (false, t)
  | .mark index => fun p t => k.go p (t.mark index p)
  | .recall index folding => fun p t =>
    match t.group? index with
    | none => (false, t)
    | some (start, stop) =>
      if repeatsAt text folding start p (stop - start) then k.go (p + (stop - start)) t
      else (false, t)
  | .branch branches => fun p t => attemptBranches inLoop branches ⟨none, k.go⟩ p t t
  | .run greed least most test => runOf text inLoop greed least most test k
  | .loop isLazy least most body =>
    let again (next : Tail) : Attempt := attemptAll true body next
    let extra := extraRepeats text least most
    let after :=
      if isLazy then mayRepeatLazily inLoop again k extra none else mayRepeat again k extra none
    mustRepeat again after least
  | .keep least most body => fun p t =>
    let once : Attempt := attemptAll inLoop body .done
    match mustKeep once least { t with left := p } with
    | (false, u) => (false, { u with left := p })
    | (true, u) =>
      let v := mayKeep once (extraRepeats text least most) u
      k.go v.left v
  | .atomic body => fun p t =>
    match fromHere (attemptAll inLoop body .done) p t with
    | (true, u) => k.go u.left u
    | (false, u) => (false, u)
  | .look back negated body => fun p t =>
    if p < back then if negated then k.go p t else (false, t)
    else
      match attemptAll inLoop body .done (p - back) { t with left := p - back } with
      | (true, u) => if negated then (false, u) else k.go p u
      | (false, u) => if negated then k.go p (t.giveUp inLoop u) else (false, u)
  | .given index yes no => fun p t =>
    if (t.group? index).isSome then
      attemptAll inLoop yes ⟨if no.isEmpty then k.exactly? else none, k.go⟩ p t
    else attemptAll inLoop no k p t

/-- Matches steps one after another and what follows them. -/
def attemptAll (inLoop : Bool) (steps : List Step) (k : Tail) : Attempt :=
  match steps with
  | [] => k.go
  | step :: rest => step.attempt inLoop ⟨headOf rest k.exactly?, attemptAll inLoop rest k⟩

/-- Matches the first branch that can be matched together with what follows. -/
def attemptBranches (inLoop : Bool) (branches : List (List Step)) (k : Tail) (p : Nat)
    (before now : Trail) : Bool × Trail :=
  match branches with
  | [] => (false, now)
  | branch :: rest =>
    if isBarredBranch text branch p then attemptBranches inLoop rest k p before now
    else
      match attemptAll inLoop branch k p { now with left := p } with
      | (true, u) => (true, u)
      | (false, u) => attemptBranches inLoop rest k p before (before.giveUp inLoop u)

end

/-- The places at which a match is tried. -/
def Program.starts (program : Program) : List Nat :=
  if text.size < program.least then []
  else match program.start with
    | .unknown => List.range (text.size + 1 - (program.least - 1))
    | .tested => List.range text.size
    | .oneOf s => (List.range text.size).filter (passesAt text (.set s))

/-- What a program finds in the text: the trail of the first match. -/
def Program.find? (program : Program) : Option Trail :=
  (program.starts text).findSome? fun p =>
    match attemptAll text false program.steps .done p ⟨p, #[]⟩ with
    | (true, t) => some t
    | (false, _) => none

end
end Rulebook.Pattern
