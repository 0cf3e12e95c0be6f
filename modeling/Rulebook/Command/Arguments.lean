/-!
The notation of the command line. Options of the program stand before the name of a command; options
of a command may stand among its arguments, until two hyphens end them. An option takes its value
after an equals sign or from the next argument.
-/

namespace Rulebook.Command

/-- An option that is recognised: its long name, its short letter if it has one, and whether it
takes a value. -/
structure OptionSpec where
  name : String
  letter : Option Char := none
  takesValue : Bool := false
  deriving DecidableEq, Repr

/-- What was found on the command line. -/
structure Parsed where
  /-- Options in the order in which they were given; those without a value have none. -/
  options : List (String × Option String)
  /-- The other arguments. -/
  arguments : List String
  deriving DecidableEq, Repr

namespace Parsed

def empty : Parsed := ⟨[], []⟩

/-- Whether an option was given. -/
def has (p : Parsed) (name : String) : Bool := p.options.any (·.1 = name)

/-- The value of an option; the last one given counts. -/
def value? (p : Parsed) (name : String) : Option String :=
  p.options.reverse.findSome? fun o => if o.1 = name then o.2 else none

def addOption (p : Parsed) (name : String) (value : Option String) : Parsed :=
  { p with options := p.options ++ [(name, value)] }

def addArguments (p : Parsed) (more : List String) : Parsed :=
  { p with arguments := p.arguments ++ more }

end Parsed

/-- Splits a text at its first equals sign. -/
def splitValue (s : String) : String × Option String :=
  let cs := s.toList
  match cs.dropWhile (· != '=') with
  | [] => (s, none)
  | _ :: value => (String.ofList (cs.takeWhile (· != '=')), some (String.ofList value))

/-- The long options that letters after one hyphen stand for; none of them takes a value. -/
def letters (specs : List OptionSpec) : List Char → Option (List String)
  | [] => some []
  | c :: rest => do
    let spec ← specs.find? fun s => s.letter = some c && !s.takesValue
    return spec.name :: (← letters specs rest)

/-- Reads the arguments. If options may not stand among arguments, the first argument ends them. An
option that is unknown, lacks its value or has one that it does not take makes the whole line
unusable. -/
def parse (specs : List OptionSpec) (mixed : Bool) (found : Parsed) : List String → Option Parsed
  | [] => some found
  | word :: rest =>
    if word = "--" then some (found.addArguments rest)
    else if word.startsWith "--" then
      let (name, value) := splitValue word
      match specs.find? fun s => "--" ++ s.name = name with
      | none => none
      | some spec =>
        if spec.takesValue then
          match value, rest with
          | some v, rest => parse specs mixed (found.addOption spec.name (some v)) rest
          | none, v :: rest => parse specs mixed (found.addOption spec.name (some v)) rest
          | none, [] => none
        else if value.isSome then none
        else parse specs mixed (found.addOption spec.name none) rest
    else if word.startsWith "-" && 1 < word.length then
      match letters specs (word.toList.drop 1) with
      | none => none
      | some names =>
        parse specs mixed (names.foldl (fun p n => p.addOption n none) found) rest
    else if mixed then parse specs mixed (found.addArguments [word]) rest
    else some (found.addArguments (word :: rest))

end Rulebook.Command
