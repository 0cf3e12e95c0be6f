import Rulebook.Value.Equality

/-!
Reading documents in JSON notation, with NaN and the infinities as further numbers. Numbers with a
point or a power are doubles and all others integers of any size. A key that is repeated keeps its
first place and its last value.
-/

namespace Rulebook.Json

/-- The mark of every NaN that is read from such a document: they are one occurrence. -/
def nanMark : Nat := 1

def isBlank (c : Char) : Bool := c = ' ' || c = '\t' || c = '\n' || c = '\r'

def skipBlanks (cs : List Char) : List Char := cs.dropWhile isBlank

/-- The value of four hexadecimal digits. -/
def readHex (digits : List Char) : Option Nat :=
  if digits.length = 4 && digits.all isHexDigit then some (hexValue digits) else none

/-- The character behind a backslash and a letter. -/
def letterEscape : Char → Option Char
  | '"' => some '"'
  | '\\' => some '\\'
  | '/' => some '/'
  | 'b' => some '\x08'
  | 'f' => some '\x0c'
  | 'n' => some '\n'
  | 'r' => some '\r'
  | 't' => some '\t'
  | _ => none

/-- The code point of two halves of a pair. -/
def joinPair (high low : Nat) : Nat := 0x10000 + (high - 0xD800) * 0x400 + (low - 0xDC00)

/-- Reads one character written by its number, after the letter u: four digits, or a pair of halves.
A half that stands alone is no character. -/
def readCode (cs : List Char) : Option (Char × List Char) := do
  let n ← readHex (cs.take 4)
  if 0xD800 ≤ n ∧ n < 0xE000 then
    match cs.drop 4 with
    | '\\' :: 'u' :: rest =>
      let low ← readHex (rest.take 4)
      if n < 0xDC00 ∧ 0xDC00 ≤ low ∧ low < 0xE000 then
        some (Char.ofNat (joinPair n low), rest.drop 4)
      else none
    | _ => none
  else some (Char.ofNat n, cs.drop 4)

/-- Reads the characters of a string up to its closing quote. -/
def readString : Nat → List Char → Option (List Char × List Char)
  | 0, _ => none
  | fuel + 1, cs =>
    match cs with
    | [] => none
    | '"' :: rest => some ([], rest)
    | '\\' :: 'u' :: rest => do
      let (c, rest) ← readCode rest
      let (body, rest) ← readString fuel rest
      return (c :: body, rest)
    | '\\' :: e :: rest => do
      let c ← letterEscape e
      let (body, rest) ← readString fuel rest
      return (c :: body, rest)
    | c :: rest => do
      if c.toNat < 32 || c = '\\' then none
      else
        let (body, rest) ← readString fuel rest
        return (c :: body, rest)

/-- Splits off the digits after a point, if there is a point with digits. -/
def readFraction (cs : List Char) : Option (List Char) × List Char :=
  match cs with
  | '.' :: d :: rest =>
    if d.isDigit then
      (some ((d :: rest).takeWhile Char.isDigit), (d :: rest).dropWhile Char.isDigit)
    else (none, cs)
  | _ => (none, cs)

/-- Reads a number without its sign. Integers are read however many digits they have. -/
def readNumber (negative : Bool) (cs : List Char) : Option (Value × List Char) :=
  let digits := cs.takeWhile Char.isDigit
  let whole := if digits.head? = some '0' then ['0'] else digits
  if whole.isEmpty then none
  else
    let (fraction, rest) := readFraction (cs.drop whole.length)
    let (power, rest) := Numeral.readPower rest
    let n : Numeral := { negative, whole, fraction, power }
    if n.isInteger then some (.int n.integer, rest)
    else some (.atom (.float (.ofNumeral n)), rest)

/-- The words that stand for values. -/
def words : List (String × Value) :=
  [("null", .null), ("true", .bool true), ("false", .bool false),
    ("NaN", .atom (.float (.nan nanMark))), ("Infinity", .atom (.float (.infinity false))),
    ("-Infinity", .atom (.float (.infinity true)))]

/-- Reads one of the words. -/
def readWord (cs : List Char) : Option (Value × List Char) :=
  words.findSome? fun (word, v) =>
    if word.toList.isPrefixOf cs then some (v, cs.drop word.length) else none

mutual

/-- Reads a value that begins at once. -/
def readValue (fuel : Nat) (cs : List Char) : Option (Value × List Char) :=
  match fuel with
  | 0 => none
  | fuel + 1 =>
    match cs with
    | '"' :: rest => do
      let (body, rest) ← readString (rest.length + 1) rest
      return (.str (String.ofList body), rest)
    | '[' :: rest =>
      match skipBlanks rest with
      | ']' :: rest => some (.list [], rest)
      | rest => do
        let (items, rest) ← readItems fuel rest
        return (.list items, rest)
    | '\x7b' :: rest =>
      match skipBlanks rest with
      | '\x7d' :: rest => some (.map [], rest)
      | rest => do
        let (entries, rest) ← readEntries fuel rest
        return (.ofEntries entries, rest)
    | _ =>
      match readWord cs, cs with
      | some found, _ => some found
      | none, '-' :: rest => readNumber true rest
      | none, _ => readNumber false cs

/-- Reads items up to the closing bracket. -/
def readItems (fuel : Nat) (cs : List Char) : Option (List Value × List Char) :=
  match fuel with
  | 0 => none
  | fuel + 1 => do
    let (v, rest) ← readValue fuel cs
    match skipBlanks rest with
    | ']' :: rest => return ([v], rest)
    | ',' :: rest =>
      let (items, rest) ← readItems fuel (skipBlanks rest)
      return (v :: items, rest)
    | _ => none

/-- Reads entries up to the closing brace. -/
def readEntries (fuel : Nat) (cs : List Char) : Option (List (Value × Value) × List Char) :=
  match fuel with
  | 0 => none
  | fuel + 1 =>
    match cs with
    | '"' :: rest => do
      let (key, rest) ← readString (rest.length + 1) rest
      match skipBlanks rest with
      | ':' :: rest =>
        let (v, rest) ← readValue fuel (skipBlanks rest)
        let entry := (.str (String.ofList key), v)
        match skipBlanks rest with
        | '\x7d' :: rest => return ([entry], rest)
        | ',' :: rest =>
          let (entries, rest) ← readEntries fuel (skipBlanks rest)
          return (entry :: entries, rest)
        | _ => none
      | _ => none
    | _ => none

end

/-- Reads a whole document: one value with nothing but blanks around it. -/
def read (s : String) : Option Value :=
  let cs := s.toList
  match readValue (2 * cs.length + 2) (skipBlanks cs) with
  | some (v, rest) => if (skipBlanks rest).isEmpty then some v else none
  | none => none

end Rulebook.Json
