import Rulebook.Text.Printable

/-!
Quoted notation of texts and byte strings. A text stands in single quotes unless it holds a single
quote and no double quote. Backslashes, the quote in use and characters that are not printable are
written with a backslash.
-/

namespace Rulebook.Text

/-- Hexadecimal digits, filled up with zeros to a width. -/
def hexDigits (width n : Nat) : List Char :=
  let ds := Nat.toDigits 16 n
  List.replicate (width - ds.length) '0' ++ ds

/-- The quote that a text with the given characters stands in. -/
def chooseQuote (cs : List Char) : Char :=
  if cs.contains '\'' && !cs.contains '"' then '"' else '\''

/-- The notation of a code point that is not printed as it is. -/
def escapeCode (n : Nat) : List Char :=
  if n = 9 then ['\\', 't']
  else if n = 10 then ['\\', 'n']
  else if n = 13 then ['\\', 'r']
  else if n < 256 then '\\' :: 'x' :: hexDigits 2 n
  else if n < 65536 then '\\' :: 'u' :: hexDigits 4 n
  else '\\' :: 'U' :: hexDigits 8 n

/-- One character inside the given quotes. -/
def quoteChar (quote c : Char) : List Char :=
  if c = quote ∨ c = '\\' then ['\\', c]
  else if isPrintable c.toNat then [c]
  else escapeCode c.toNat

/-- A text in quotes. -/
def quotedChars (cs : List Char) : List Char :=
  let quote := chooseQuote cs
  quote :: cs.flatMap (quoteChar quote) ++ [quote]

def quoted (s : String) : String := String.ofList (quotedChars s.toList)

/-- Bytes in quotes, marked by a letter; only printable ASCII is shown as it is. -/
def quotedBytes (bytes : List UInt8) : String :=
  let cs := bytes.map fun b => Char.ofNat b.toNat
  let quote := chooseQuote cs
  let one (c : Char) : List Char :=
    if c = quote ∨ c = '\\' then ['\\', c]
    else if 32 ≤ c.toNat ∧ c.toNat < 127 then [c]
    else escapeCode c.toNat
  String.ofList ('b' :: quote :: cs.flatMap one ++ [quote])

end Rulebook.Text
