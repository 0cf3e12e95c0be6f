import Rulebook.Value.Basic

/-!
The names of types by which messages are chosen.
-/

namespace Rulebook

/-- The names of an atom's type, the most specific one first: a truth value is also an integer,
and a date with a time also a date. Bytes and regular expressions have no name. -/
def Atom.typeNames : Atom → List String
  | .null => ["nil"]
  | .absent => ["absent"]
  | .bool _ => ["bool", "integer"]
  | .int _ => ["integer"]
  | .float _ => ["float"]
  | .decimal _ => ["decimal"]
  | .str _ => ["string"]
  | .bytes _ => []
  | .date _ => ["date"]
  | .moment _ => ["date_time", "date"]
  | .clock _ => ["time"]
  | .span _ => ["range"]
  | .pattern _ => []

/-- The names of a value's type, the most specific one first. -/
def Value.typeNames : Value → List String
  | .atom a => a.typeNames
  | .seq _ _ => ["array"]
  | .set _ _ => ["set"]
  | .map _ => ["hash"]

end Rulebook
