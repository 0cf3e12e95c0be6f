/-!
Tables of names of characters. The names of neighbouring characters begin with the same words, so a
table writes each name as the number of leading words that it shares with the name before it, one
digit, and the words that follow. The names of a stretch belong to one code point after another.
They stand on lines, separated by semicolons, and an empty one is a code point without a name.
-/

namespace Rulebook.Text

/-- Stretches of names, each with the first code point. -/
abbrev NameTable := List (Nat × List String)

namespace NameTable

/-- The number of words that two names share at their start. -/
def sharedWords : List String → List String → Nat
  | v :: vs, w :: ws => if v = w then sharedWords vs ws + 1 else 0
  | _, _ => 0

/-- Looks for a name among entries, given how many words of it the entry before them begins with. -/
def findEntry? (name : List String) (code matched : Nat) : List String → Option Nat
  | [] => none
  | entry :: rest =>
    let shared := entry.front.toNat - '0'.toNat
    if entry.isEmpty || matched < shared then findEntry? name (code + 1) matched rest
    else
      let words := (String.ofList (entry.toList.drop 1)).splitOn " "
      let matched := shared + sharedWords (name.drop shared) words
      if matched = name.length && matched = shared + words.length then some code
      else findEntry? name (code + 1) matched rest

/-- The code point of a name, given as words. -/
def find? (table : NameTable) (name : List String) : Option Nat :=
  table.findSome? fun (first, lines) => findEntry? name first 0 (lines.flatMap (·.splitOn ";"))

end NameTable
end Rulebook.Text
