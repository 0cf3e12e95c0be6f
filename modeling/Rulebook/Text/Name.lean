import Rulebook.Text.Name.Alias
import Rulebook.Text.Name.Series
import Rulebook.Text.Name.Latin
import Rulebook.Text.Name.Mediterranean
import Rulebook.Text.Name.SouthAsian
import Rulebook.Text.Name.Syllabic
import Rulebook.Text.Name.Phonetic
import Rulebook.Text.Name.Symbols
import Rulebook.Text.Name.Shapes
import Rulebook.Text.Name.Operators
import Rulebook.Text.Name.EastAsian
import Rulebook.Text.Name.ModernScripts
import Rulebook.Text.Name.PresentationForms
import Rulebook.Text.Name.AncientScripts
import Rulebook.Text.Name.Brahmic
import Rulebook.Text.Name.Hieroglyphs
import Rulebook.Text.Name.Musical
import Rulebook.Text.Name.SignWriting
import Rulebook.Text.Name.Pictures
import Rulebook.Text.Name.Emoji

/-!
Names of characters. A name may be written in either case, except for the names of Hangul syllables
and unified ideographs.
-/

namespace Rulebook.Text

/-- The tables of all names that follow no rule. -/
def nameTables : List NameTable := [
  .latin, .mediterranean, .southAsian, .syllabic, .phonetic, .symbols, .shapes, .operators,
  .eastAsian, .modernScripts, .presentationForms, .ancientScripts, .brahmic, .hieroglyphs, .musical,
  .signWriting, .pictures, .emoji]

/-- The code point of a name that is listed or numbered, in upper case. -/
def listedCode? (name : List Char) : Option Nat :=
  let text := String.ofList name
  (NameSeries.all.findSome? (·.find? name)).or
    ((aliases.lookup text).or (nameTables.findSome? (·.find? (text.splitOn " "))))

/-- The rest of a text after another one that it begins with. -/
def after? (start : String) (cs : List Char) : Option (List Char) :=
  if start.toList.isPrefixOf cs then some (cs.drop start.length) else none

/-- The code point of a named character. -/
def codeOfName? (name : List Char) : Option Nat :=
  match after? "HANGUL SYLLABLE " name, after? "CJK UNIFIED IDEOGRAPH-" name with
  | some letters, _ => Hangul.syllable? letters
  | none, some digits => ideograph? digits
  | none, none => listedCode? (name.map Char.toUpper)

end Rulebook.Text
