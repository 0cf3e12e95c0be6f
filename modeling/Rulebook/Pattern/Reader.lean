import Rulebook.Pattern.Width
import Rulebook.Text.Blank
import Rulebook.Text.Digit
import Rulebook.Text.Identifier
import Rulebook.Text.Name
import Rulebook.Number.Numeral

/-!
Reading the notation of regular expressions. The reader walks the text once from left to right; a
backslash and the character after it are one token. The reader is total: a text is either read as
parts or refused with a cause.
-/

namespace Rulebook.Pattern

/-- A piece of the notation. -/
inductive Token where
  | plain (c : Char)
  | escaped (c : Char)
  deriving DecidableEq, Repr

/-- The characters of a token. -/
def Token.chars : Token → List Char
  | .plain c => [c]
  | .escaped c => ['\\', c]

/-- What the reader knows at a place in the text. -/
structure Reader where
  rest : List Char
  /-- Whether the expression is for texts; otherwise it is for bytes. -/
  forText : Bool
  /-- The options of the whole expression. -/
  options : Options := {}
  /-- The number of the next group. -/
  nextGroup : Nat := 1
  names : List (String × Nat) := []
  /-- The widths of the groups that are closed. -/
  closed : List (Nat × Width) := []
  /-- Inside a condition on preceding text, the number of the next group at its start. -/
  behindFrom : Option Nat := none
  /-- Group numbers that choices refer to. -/
  referred : List Nat := []

abbrev Reading := StateT Reader (Except Error)

def fail {α : Type} : Reading α := throw .malformed

/-- Whether a text does not begin with a backslash that has nothing behind it. -/
def startsWell : List Char → Bool
  | ['\\'] => false
  | _ => true

def peek : Reading (Option Token) := do
  match (← get).rest with
  | [] => return none
  | '\\' :: c :: _ => return some (.escaped c)
  | c :: _ => return some (.plain c)

/-- Takes the next token; none is left at the end of the text. -/
def next : Reading (Option Token) := do
  let token ← peek
  let count := match token with
    | none => 0
    | some t => t.chars.length
  let rest := (← get).rest.drop count
  if startsWell rest then
    modify fun r => { r with rest }
    return token
  else fail

/-- Takes the next token if it is the given character. -/
def accept (c : Char) : Reading Bool := do
  if (← peek) = some (.plain c) then
    let _ ← next
    return true
  else return false

/-- Takes at most so many plain characters of a kind. -/
def takeWhile (kind : Char → Bool) : Nat → Reading (List Char)
  | 0 => return []
  | n + 1 => do
    match ← peek with
    | some (.plain c) =>
      if kind c then
        let _ ← next
        return c :: (← takeWhile kind n)
      else return []
    | _ => return []

/-- Takes all plain decimal digits. -/
def takeDigits : Reading (List Char) := do
  takeWhile Char.isDigit (← get).rest.length

/-- Takes the characters up to a closing character, which is taken too; there must be some. -/
def takeUntil (close : Char) : Nat → Reading (List Char)
  | 0 => fail
  | n + 1 => do
    match ← next with
    | none => fail
    | some t => if t = .plain close then return [] else return t.chars ++ (← takeUntil close n)

def takeName (close : Char) : Reading (List Char) := do
  let name ← takeUntil close ((← get).rest.length + 1)
  if name.isEmpty then fail else return name

/-! ## Escapes -/

def isOctal (c : Char) : Bool := '0' ≤ c && c ≤ '7'

def isAsciiLetter (c : Char) : Bool := ('a' ≤ c && c ≤ 'z') || ('A' ≤ c && c ≤ 'Z')

/-- The characters that have a letter of their own. -/
def controlCode : Char → Option Nat
  | 'a' => some 7
  | 'b' => some 8
  | 'f' => some 12
  | 'n' => some 10
  | 'r' => some 13
  | 't' => some 9
  | 'v' => some 11
  | '\\' => some 92
  | _ => none

def categoryOf : Char → Option Member
  | 'd' => some (.category .digit false)
  | 'D' => some (.category .digit true)
  | 's' => some (.category .blank false)
  | 'S' => some (.category .blank true)
  | 'w' => some (.category .word false)
  | 'W' => some (.category .word true)
  | _ => none

/-- Reads exactly so many hexadecimal digits. -/
def takeHex (count : Nat) : Reading Nat := do
  let digits ← takeWhile isHexDigit count
  if digits.length = count then return hexValue digits else fail

/-- Reads the name of a character in braces. -/
def takeCharacterName : Reading Nat := do
  if ← accept '\x7b' then
    match Text.codeOfName? (← takeName '\x7d') with
    | some n => return n
    | none => fail
  else fail

/-- The escapes with the same meaning everywhere: hexadecimal codes, names and characters that stand
for themselves. Other letters are refused. -/
def readCode (c : Char) : Reading Nat := do
  let forText := (← get).forText
  if c = 'x' then takeHex 2
  else if c = 'u' && forText then takeHex 4
  else if c = 'U' && forText then
    let n ← takeHex 8
    if n < 0x110000 then return n else fail
  else if c = 'N' && forText then takeCharacterName
  else if isAsciiLetter c || c.isDigit then fail
  else return c.toNat

/-- An octal code of up to three digits, of which the first is already taken. -/
def takeOctal (first : Char) : Reading Nat := do
  return octalValue (first :: (← takeWhile isOctal 2))

/-- An escape inside a character class. -/
def readClassEscape (c : Char) : Reading Member := do
  match controlCode c, categoryOf c with
  | some n, _ => return .code n
  | none, some m => return m
  | none, none =>
    if isOctal c then
      let n ← takeOctal c
      if n ≤ 255 then return .code n else fail
    else return .code (← readCode c)

/-- Inside a condition on preceding text only groups closed before it may be referred to. -/
def checkBehind (index : Nat) : Reading Unit := do
  let r ← get
  match r.behindFrom with
  | none => return ()
  | some start =>
    if (r.closed.lookup index).isSome && index < start then return () else fail

/-- A reference to a group, which must be closed. -/
def readRecall (index : Nat) : Reading Item := do
  let r ← get
  match r.closed.lookup index with
  | some width =>
    checkBehind index
    return .recall index width
  | none => fail

/-! ## Characters and classes -/

/-- An escape outside of character classes. -/
def readEscape (c : Char) : Reading Item := do
  match c with
  | 'A' => return .anchor .textStart
  | 'Z' => return .anchor .textEnd
  | 'b' => return .anchor (.boundary false)
  | 'B' => return .anchor (.boundary true)
  | _ =>
    match categoryOf c, controlCode c with
    | some m, _ => return .oneOf false [m]
    | none, some n => return .char false n
    | none, none =>
      if c = '0' then return .char false (← takeOctal c)
      else if c.isDigit then
        let second ← takeWhile Char.isDigit 1
        let digits := c :: second
        let third ← if digits.length = 2 && digits.all isOctal then takeWhile isOctal 1 else pure []
        if third.isEmpty then readRecall (digitsValue digits)
        else
          let n := octalValue (digits ++ third)
          if n ≤ 255 then return .char false n else fail
      else return .char false (← readCode c)

/-- One member of a class from the token that begins it. -/
def readMember : Token → Reading Member
  | .plain c => return .code c.toNat
  | .escaped c => readClassEscape c

/-- The members of a character class up to its closing bracket, last one first. A bracket closes the
class only after a member. -/
def readMembers : Nat → List Member → Reading (List Member)
  | 0, _ => fail
  | fuel + 1, found => do
    match ← next with
    | none => fail
    | some t =>
      if t = .plain ']' && !found.isEmpty then return found
      else
        let first ← readMember t
        if ← accept '-' then
          match ← next with
          | none => fail
          | some (.plain ']') => return .code 45 :: first :: found
          | some u =>
            let last ← readMember u
            match first, last with
            | .code low, .code high =>
              if high < low then fail else readMembers fuel (.range low high :: found)
            | _, _ => fail
        else readMembers fuel (first :: found)

def readClass : Reading Item := do
  let negated ← accept '^'
  let members ← readMembers ((← get).rest.length + 1) []
  return .ofMembers negated members.reverse

/-! ## Repetitions -/

/-- A number of repetitions; none is written for the default. -/
def countOf (digits : List Char) (otherwise : Option Nat) : Reading (Option Nat) :=
  if digits.isEmpty then return otherwise
  else if repeatLimit ≤ digitsValue digits then throw .countTooLarge
  else return some (digitsValue digits)

/-- The numbers in braces after an opening brace. Braces with other contents stand for themselves:
then nothing is taken. -/
def readBraces : Reading (Option (Nat × Option Nat)) := do
  let before := (← get).rest
  if (← peek) = some (.plain '}') then return none
  else
    let low ← takeDigits
    let high ← if ← accept ',' then takeDigits else pure low
    if ← accept '}' then
      let least := (← countOf low none).getD 0
      let most ← countOf high none
      match most with
      | some n => if n < least then fail else return some (least, some n)
      | none => return some (least, none)
    else
      modify fun r => { r with rest := before }
      return none

/-- The repetition that a character begins, if it begins one. -/
def readCount (c : Char) : Reading (Option (Nat × Option Nat)) := do
  match c with
  | '?' => return some (0, some 1)
  | '*' => return some (0, none)
  | '+' => return some (1, none)
  | '\x7b' => readBraces
  | _ => return none

def readGreed : Reading Greed := do
  if ← accept '?' then return .lazy
  else if ← accept '+' then return .possessive
  else return .greedy

/-! ## Options -/

/-- The letters of the options. -/
def optionOf : Char → Option Options
  | 'i' => some { ignoreCase := true }
  | 'L' => some { locale := true }
  | 'm' => some { multiline := true }
  | 's' => some { dotAll := true }
  | 'x' => some { verbose := true }
  | 'a' => some { ascii := true }
  | 't' => some { template := true }
  | 'u' => some { unicode := true }
  | _ => none

/-- Option letters turned on, from the given one up to a closing character, which is returned. -/
def readOptionsOn (fuel : Nat) (c : Char) (on : Options) : Reading (Char × Options) := do
  match fuel, optionOf c with
  | _, none => fail
  | 0, _ => fail
  | fuel + 1, some o =>
    if (← get).forText && o.locale || !(← get).forText && o.unicode then fail
    else
      let on := on.union o
      if o.alphabet != {} && on.alphabet != o.alphabet then fail
      else
        match ← next with
        | some (.plain d) =>
          if d = ')' || d = '-' || d = ':' then return (d, on) else readOptionsOn fuel d on
        | _ => fail

/-- Option letters turned off, from the given one up to the colon. -/
def readOptionsOff (fuel : Nat) (c : Char) (off : Options) : Reading Options := do
  match fuel, optionOf c with
  | _, none => fail
  | 0, _ => fail
  | fuel + 1, some o =>
    if o.alphabet != {} then fail
    else
      let off := off.union o
      match ← next with
      | some (.plain ':') => return off
      | some (.plain d) => readOptionsOff fuel d off
      | _ => fail

/-- The options in front of a part: none if they hold for the whole expression, where they are
noted; otherwise what the part switches. -/
def readOptions (c : Char) : Reading (Option Switch) := do
  let fuel := (← get).rest.length + 1
  let (close, on) ← if c = '-' then pure ('-', {}) else readOptionsOn fuel c {}
  if close = ')' then
    modify fun r => { r with options := r.options.union on }
    return none
  else if on.template then fail
  else
    let off ← if close = '-' then
        match ← next with
        | some (.plain d) => readOptionsOff fuel d {}
        | _ => fail
      else pure {}
    if off.template || on.minus off != on then fail else return some ⟨on, off⟩

/-! ## Groups -/

/-- Opens a group, under a name if there is one; a name is used once. -/
def openGroup (name : Option String) : Reading Nat := do
  let r ← get
  match name with
  | none =>
    set { r with nextGroup := r.nextGroup + 1 }
    return r.nextGroup
  | some s =>
    if (r.names.lookup s).isSome then fail
    else
      set { r with nextGroup := r.nextGroup + 1, names := (s, r.nextGroup) :: r.names }
      return r.nextGroup

def closeGroup (index : Nat) (body : List Item) : Reading Unit :=
  modify fun r => { r with closed := (index, sequenceWidth body) :: r.closed }

/-- The name of a group up to a closing character: an identifier. -/
def takeGroupName (close : Char) : Reading String := do
  let name ← takeName close
  if Text.isIdentifier name then return String.ofList name else fail

/-- The value of digits of any script with single underscores between them. -/
def valueAround (value : Nat) : List Char → Option Nat
  | [] => none
  | c :: rest => do
    let value := 10 * value + (← Text.digitValue? c.toNat)
    match rest with
    | [] => return value
    | '_' :: rest => valueAround value rest
    | rest => valueAround value rest

/-- A character that may stand around a number: a blank, but no separator among the ASCII
characters. -/
def isPadding (c : Char) : Bool :=
  if c.toNat < 127 then c = ' ' || '\x09' ≤ c && c ≤ '\x0d' else Text.isBlank c.toNat

/-- A group number, with blanks around it and a plus sign allowed. -/
def groupNumber (name : List Char) : Option Nat :=
  let name := ((name.dropWhile isPadding).reverse.dropWhile isPadding).reverse
  valueAround 0 <| match name with
    | '+' :: rest => rest
    | _ => name

/-- The number of groups that an expression can have at most. -/
def groupLimit : Nat := 1073741823

/-- The group that a choice depends on, by name or by number. -/
def readCondition : Reading Nat := do
  let name ← takeName ')'
  let index ← if Text.isIdentifier name then
      match (← get).names.lookup (String.ofList name) with
      | some index => pure index
      | none => fail
    else
      match groupNumber name with
      | some index =>
        if index = 0 || groupLimit ≤ index then fail
        else
          modify fun r => { r with referred := index :: r.referred }
          pure index
      | none => fail
  checkBehind index
  return index

/-- Characters that are skipped between tokens of a verbose expression. -/
def isLayout (c : Char) : Bool :=
  c = ' ' || c = '\t' || c = '\n' || c = '\r' || c = '\x0b' || c = '\x0c'

/-- Skips a comment to the end of its line. -/
def skipLine : Nat → Reading Unit
  | 0 => return ()
  | n + 1 => do
    match ← next with
    | none => return ()
    | some t => if t = .plain '\n' then return () else skipLine n

/-- Skips a comment to its closing parenthesis. -/
def skipComment : Nat → Reading Unit
  | 0 => fail
  | n + 1 => do
    match ← next with
    | none => fail
    | some t => if t = .plain ')' then return () else skipComment n

def expectClose : Reading Unit := do
  if ← accept ')' then return () else fail

/-- The part that a repetition of a part is. What only holds other parts together gives way to
them. -/
def repeated (greed : Greed) (least : Nat) (most : Option Nat) (item : Item) : Item :=
  .loop greed least most (spliced [item])

/-- A repetition of the part before it. A place, or a part that is repeated already, cannot be
repeated. -/
def readRepetition (least : Nat) (most : Option Nat) : List Item → Reading (List Item)
  | [] => fail
  | .anchor _ :: _ => fail
  | .loop _ _ _ _ :: _ => fail
  | item :: before => do return repeated (← readGreed) least most item :: before

mutual

/-- Alternatives up to a closing parenthesis or the end, as parts. -/
def readPart (fuel : Nat) (verbose : Bool) : Reading (List Item) := do
  match fuel with
  | 0 => fail
  | fuel + 1 => return ofBranches (← readBranches fuel verbose false false)

/-- The branches up to a closing parenthesis or the end. Only the first one of the whole expression
may set options for all of it. -/
def readBranches (fuel : Nat) (verbose top first : Bool) : Reading (List (List Item)) := do
  match fuel with
  | 0 => fail
  | fuel + 1 =>
    let branch ← readSequence fuel verbose (top && first) []
    if ← accept '|' then
      let r ← get
      let verbose := if top then r.options.verbose else verbose
      return branch :: (← readBranches fuel verbose top false)
    else return [branch]

/-- The parts of a sequence, last one first in the argument. -/
def readSequence (fuel : Nat) (verbose first : Bool) (parts : List Item) :
    Reading (List Item) := do
  match fuel with
  | 0 => fail
  | fuel + 1 =>
    let continueWith (item : Item) : Reading (List Item) :=
      readSequence fuel verbose first (item :: parts)
    match ← peek with
    | none => return spliced parts.reverse
    | some (.plain '|') => return spliced parts.reverse
    | some (.plain ')') => return spliced parts.reverse
    | some (.escaped c) =>
      let _ ← next
      continueWith (← readEscape c)
    | some (.plain c) =>
      let _ ← next
      if verbose && isLayout c then readSequence fuel verbose first parts
      else if verbose && c = '#' then
        skipLine ((← get).rest.length + 1)
        readSequence fuel verbose first parts
      else if c = '[' then continueWith (← readClass)
      else if c = '.' then continueWith .any
      else if c = '^' then continueWith (.anchor .lineStart)
      else if c = '$' then continueWith (.anchor .lineEnd)
      else if c = '(' then
        if ← accept '?' then
          match ← next with
          | some (.plain d) => readExtension fuel verbose first parts d
          | _ => fail
        else continueWith (← readGroup fuel verbose none)
      else if c = '*' || c = '+' || c = '?' || c = '\x7b' then
        match ← readCount c with
        | none => continueWith (.char false c.toNat)
        | some (least, most) =>
          readSequence fuel verbose first (← readRepetition least most parts)
      else continueWith (.char false c.toNat)

/-- What follows an opening parenthesis and a question mark, from the given character on; then the
rest of the sequence. -/
def readExtension (fuel : Nat) (verbose first : Bool) (parts : List Item) (c : Char) :
    Reading (List Item) := do
  match fuel with
  | 0 => fail
  | fuel + 1 =>
    let continueWith (item : Item) : Reading (List Item) :=
      readSequence fuel verbose first (item :: parts)
    if c = 'P' then
      if ← accept '<' then
        let name ← takeGroupName '>'
        continueWith (← readGroup fuel verbose (some name))
      else if ← accept '=' then
        let name ← takeGroupName ')'
        match (← get).names.lookup name with
        | some index => continueWith (← readRecall index)
        | none => fail
      else fail
    else if c = ':' then continueWith (.group none {} (← readClosed fuel verbose))
    else if c = '#' then
      skipComment ((← get).rest.length + 1)
      readSequence fuel verbose first parts
    else if c = '=' || c = '!' then
      continueWith (.look false (c = '!') (← readClosed fuel verbose))
    else if c = '<' then
      match ← next with
      | some (.plain d) =>
        if d = '=' || d = '!' then
          let outer := (← get).behindFrom
          if outer.isNone then modify fun r => { r with behindFrom := some r.nextGroup }
          let body ← readPart fuel verbose
          modify fun r => { r with behindFrom := outer }
          expectClose
          continueWith (.look true (d = '!') body)
        else fail
      | _ => fail
    else if c = '(' then
      let index ← readCondition
      let yes ← readSequence fuel verbose false []
      let no ← if ← accept '|' then readSequence fuel verbose false [] else pure []
      expectClose
      continueWith (.given index yes no)
    else if c = '>' then continueWith (.atomic (← readClosed fuel verbose))
    else if c = '-' || (optionOf c).isSome then
      match ← readOptions c with
      | none =>
        if first && parts.isEmpty then
          readSequence fuel (← get).options.verbose first parts
        else fail
      | some switch =>
        let verbose := (verbose || switch.on.verbose) && !switch.off.verbose
        continueWith (.group none switch (← readClosed fuel verbose))
    else fail

/-- A group whose match can be recalled, after its opening. -/
def readGroup (fuel : Nat) (verbose : Bool) (name : Option String) : Reading Item := do
  match fuel with
  | 0 => fail
  | fuel + 1 =>
    let index ← openGroup name
    let body ← readClosed fuel verbose
    closeGroup index body
    return .group (some index) {} body

/-- Alternatives and the closing parenthesis. -/
def readClosed (fuel : Nat) (verbose : Bool) : Reading (List Item) := do
  match fuel with
  | 0 => fail
  | fuel + 1 =>
    let body ← readPart fuel verbose
    expectClose
    return body

end

/-- Every token takes a bounded number of calls, so this many suffice for a text of that length. -/
def fuelFor (length : Nat) : Nat := 8 * length + 8

/-- A regular expression as it is written. -/
structure Source where
  items : List Item
  options : Options
  /-- The number of its groups. -/
  groups : Nat

/-- Reads a whole expression, for texts or for bytes. -/
def Source.read (forText : Bool) (cs : List Char) : Except Error Source := do
  if !startsWell cs then throw .malformed
  let start : Reader := { rest := cs, forText }
  let (branches, r) ← (readBranches (fuelFor cs.length) false true true).run start
  if r.options.ascii && (r.options.unicode || r.options.locale) then throw .conflictingOptions
  if !r.rest.isEmpty || r.referred.any (r.nextGroup ≤ ·) then throw .malformed
  let items := ofBranches branches
  if includesIn Item.looksBackUnevenly items then throw .malformed
  if r.options.template && includesIn Item.isLoop items then throw .malformed
  if includesIn Item.looksTooFarBack items then throw .looksTooFarBack
  return ⟨items, r.options, r.nextGroup - 1⟩

end Rulebook.Pattern
