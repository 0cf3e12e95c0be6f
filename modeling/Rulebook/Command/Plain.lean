/-!
Text for places that show no styles. A style is switched by a sequence of an escape character, an
opening bracket, digits and separators, and a letter; such sequences are left out.
-/

namespace Rulebook.Plain

def isLetter (c : Char) : Bool := 'a' ≤ c && c ≤ 'z' || 'A' ≤ c && c ≤ 'Z'

/-- Whether a character may stand between the bracket and the letter of a sequence. -/
def isParameter (c : Char) : Bool := c.isDigit || c = ';' || c = '?'

/-- What follows a sequence whose escape character and bracket are already taken, if it is one. -/
def afterStyle? : List Char → Option (List Char)
  | [] => none
  | c :: rest => if isParameter c then afterStyle? rest else if isLetter c then some rest else none

theorem length_afterStyle? {cs rest : List Char} (h : afterStyle? cs = some rest) :
    rest.length < cs.length := by
  induction cs with
  | nil => simp [afterStyle?] at h
  | cons c cs ih =>
    simp only [afterStyle?] at h
    split at h
    · exact Nat.lt_succ_of_lt (ih h)
    · split at h
      · simp_all
      · cases h

/-- The characters outside of sequences that switch styles. -/
def chars : List Char → List Char
  | [] => []
  | '\x1b' :: '[' :: rest =>
    match _h : afterStyle? rest with
    | some after => chars after
    | none => '\x1b' :: chars ('[' :: rest)
  | c :: rest => c :: chars rest
termination_by cs => cs.length
decreasing_by
  · have := length_afterStyle? _h
    simp only [List.length_cons]
    omega
  · simp
  · simp

/-- A text without sequences that switch styles. -/
def text (s : String) : String := String.ofList (chars s.toList)

end Rulebook.Plain
