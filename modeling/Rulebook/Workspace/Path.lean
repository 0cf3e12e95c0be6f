/-!
Paths of files, as names separated by slashes.
-/

namespace Rulebook

/-- What a path starts from. -/
inductive Root where
  /-- The current directory. -/
  | here
  /-- The top of all files. -/
  | top
  /-- The top written with two slashes, which are kept. -/
  | doubled
  deriving DecidableEq, Repr

def Root.text : Root → String
  | .here => ""
  | .top => "/"
  | .doubled => "//"

/-- A path: names from the outside in. Empty names and single points are left out. -/
structure Path where
  root : Root
  parts : List String
  deriving DecidableEq, Repr

namespace Path

/-- The names between the slashes of a text. -/
def splitParts (s : String) : List String := (s.splitOn "/").filter fun p => p != "" && p != "."

/-- The root that the slashes at the start of a text stand for: three or more count as one. -/
def rootOf (s : String) : Root :=
  match (s.toList.takeWhile (· = '/')).length with
  | 0 => .here
  | 2 => .doubled
  | _ => .top

def ofText (s : String) : Path := ⟨rootOf s, splitParts s⟩

/-- The path as a text; the empty path is a point. -/
def text (p : Path) : String :=
  if p.root = .here && p.parts.isEmpty then "."
  else p.root.text ++ String.intercalate "/" p.parts

/-- The last name. -/
def name (p : Path) : String := p.parts.getLast?.getD ""

/-- The path without its last name. -/
def parent (p : Path) : Path := { p with parts := p.parts.dropLast }

/-- A path seen from another one; a path from the top stands for itself. -/
def join (p q : Path) : Path :=
  if q.root = .here then { p with parts := p.parts ++ q.parts } else q

/-- The last point of the name and what follows it, unless the name begins or ends with it. -/
def suffix (p : Path) : String :=
  let cs := p.name.toList
  let tail := cs.reverse.takeWhile (· != '.')
  let stem := cs.length - tail.length
  if tail.isEmpty ∨ stem ≤ 1 then "" else String.ofList ('.' :: tail.reverse)

end Path
end Rulebook
