import Rulebook.Number.Numeral
import Rulebook.Text.Quoted

/-!
Characters that are named by rule: series that are numbered, Hangul syllables, which are named after
their letters, and unified ideographs, which are named after their code points.
-/

namespace Rulebook.Text

/-- Characters one after another that share a name and are numbered. -/
structure NameSeries where
  label : List Char
  first : Nat
  count : Nat
  /-- The number at a place of the series, counted from zero, as it is written. -/
  number : Nat → List Char

namespace NameSeries

/-- A series numbered by code points in hexadecimal digits. -/
def byCode (label : String) (first last : Nat) : NameSeries :=
  ⟨label.toList, first, last + 1 - first, fun i => (codeDigits (first + i)).map Char.toUpper⟩
where
  codeDigits (n : Nat) : List Char := hexDigits (if n < 0x10000 then 4 else 5) n

/-- A series numbered from a number on, with at least so many digits. -/
def counted (label : String) (first count start width : Nat) : NameSeries :=
  ⟨label.toList, first, count, fun i => paddedDigits width (start + i)⟩

/-- The code point of a name in the series. -/
def find? (s : NameSeries) (name : List Char) : Option Nat :=
  if s.label.isPrefixOf name then
    let number := name.drop s.label.length
    ((List.range s.count).find? fun i => s.number i = number).map (s.first + ·)
  else none

/-- All series. -/
def all : List NameSeries := [
  byCode "CJK COMPATIBILITY IDEOGRAPH-" 0xF900 0xFA6D,
  byCode "CJK COMPATIBILITY IDEOGRAPH-" 0xFA70 0xFAD9,
  byCode "CJK COMPATIBILITY IDEOGRAPH-" 0x2F800 0x2FA1D,
  byCode "KHITAN SMALL SCRIPT CHARACTER-" 0x18B00 0x18CD5,
  byCode "NUSHU CHARACTER-" 0x1B170 0x1B2FB,
  counted "TANGUT COMPONENT-" 0x18800 768 1 3,
  counted "VARIATION SELECTOR-" 0xFE00 16 1 1,
  counted "VARIATION SELECTOR-" 0xE0100 240 17 1,
  counted "VS" 0xFE00 16 1 1,
  counted "VS" 0xE0100 240 17 1]

end NameSeries

/-! ## Hangul syllables -/

namespace Hangul

/-- The short names of the letters that begin syllables. -/
def leading : List String :=
  ["G", "GG", "N", "D", "DD", "R", "M", "B", "BB", "S", "SS", "", "J", "JJ", "C", "K", "T", "P",
    "H"]

/-- The short names of the vowels. -/
def vowels : List String :=
  ["A", "AE", "YA", "YAE", "EO", "E", "YEO", "YE", "O", "WA", "WAE", "OE", "YO", "U", "WEO", "WE",
    "WI", "YU", "EU", "YI", "I"]

/-- The short names of the letters that end syllables. -/
def trailing : List String :=
  ["", "G", "GG", "GS", "N", "NJ", "NH", "D", "L", "LG", "LM", "LB", "LS", "LT", "LP", "LH", "M",
    "B", "BS", "S", "SS", "NG", "J", "C", "K", "T", "P", "H"]

/-- The longest of some short names that a text begins with: its place and the rest of the text. -/
def takeLongest (letters : List String) (cs : List Char) : Option (Nat × List Char) :=
  let longest := letters.foldl
    (fun n s => if s.toList.isPrefixOf cs then max n s.length else n) 0
  (letters.findIdx? fun s => s.length = longest && s.toList.isPrefixOf cs).map (·, cs.drop longest)

/-- The code point of a syllable, given the short names of its letters one after another. -/
def syllable? (cs : List Char) : Option Nat := do
  let (l, cs) ← takeLongest leading cs
  let (v, cs) ← takeLongest vowels cs
  let (t, cs) ← takeLongest trailing cs
  if cs.isEmpty then
    some (0xAC00 + (l * vowels.length + v) * trailing.length + t)
  else none

end Hangul

/-! ## Unified ideographs -/

/-- The code points of unified ideographs. -/
def ideographRanges : Ranges := [
  (0x3400, 0x4DBF), (0x4E00, 0x9FFF), (0x20000, 0x2A6DF), (0x2A700, 0x2B738), (0x2B740, 0x2B81D),
  (0x2B820, 0x2CEA1), (0x2CEB0, 0x2EBE0), (0x30000, 0x3134A)]

/-- The unified ideograph with a number of four or five hexadecimal digits in upper case. -/
def ideograph? (digits : List Char) : Option Nat :=
  let isDigit (c : Char) : Bool := c.isDigit || 'A' ≤ c && c ≤ 'F'
  let n := hexValue digits
  let isNumber := (digits.length = 4 || digits.length = 5) && digits.all isDigit
  if isNumber && ideographRanges.contains n then some n else none

end Rulebook.Text
