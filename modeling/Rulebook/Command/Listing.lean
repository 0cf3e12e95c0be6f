import Rulebook.Predicate.Registry
import Rulebook.Message.Table
import Rulebook.Json.Writer

/-!
The list of the standard predicates with their bound arguments, as JSON or as a table of two
columns.
-/

namespace Rulebook.Command

/-- The predicates in the order of their names. -/
def listed : List Predicate :=
  (MessageTable.sortedTexts Registry.standard.ids).filterMap Registry.standard.get?

/-- The list as a map from names to the names of arguments. -/
def listingData : Value :=
  .map (listed.map fun p => (.str p.id, .list (p.parameters.map .str)))

/-- A text filled up with blanks to a width. -/
def padRight (width : Nat) (s : String) : String :=
  s ++ String.ofList (List.replicate (width - s.length) ' ')

/-- A text in the middle of a width; an odd blank goes to the right. -/
def centered (width : Nat) (s : String) : String :=
  padRight width (String.ofList (List.replicate ((width - s.length) / 2) ' ') ++ s)

/-- The rows of the table under its head. -/
def rows : List (String × String) :=
  ("predicate", "arguments") :: listed.map fun p =>
    (p.id, if p.parameters.isEmpty then "-" else joined ", " p.parameters)

/-- The greatest length of some texts. -/
def widest (texts : List String) : Nat := (texts.map String.length).foldl max 0

/-- The table: columns as wide as their longest text, with a blank on either side of each. -/
def listingTable : String :=
  let left := widest (rows.map (·.1))
  let right := widest (rows.map (·.2))
  let row (r : String × String) : String :=
    " " ++ padRight left r.1 ++ "  " ++ padRight right r.2 ++ " "
  String.join ((centered (left + right + 4) "Predicates" :: rows.map row).map (· ++ "\n"))

end Rulebook.Command
