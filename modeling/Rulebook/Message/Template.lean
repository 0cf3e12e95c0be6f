import Rulebook.OrderedMap
import Rulebook.Text.Word
import Rulebook.Value.Text

/-!
Filling in templates. A slot is a percent sign and a word in braces. The template is cut into slots
and single characters once; what is filled in is never looked at again.
-/

namespace Rulebook

namespace Template

/-- A piece of a template. -/
inductive Piece where
  | char (c : Char)
  | slot (name : List Char)
  deriving DecidableEq, Repr

def isWordChar (c : Char) : Bool := Text.isWord c.toNat

/-- The word of a slot that begins right here, and what follows the slot. -/
def slotAt? : List Char → Option (List Char × List Char)
  | '%' :: '\x7b' :: rest =>
    let word := rest.takeWhile isWordChar
    if word.isEmpty then none
    else match rest.dropWhile isWordChar with
      | '\x7d' :: after => some (word, after)
      | _ => none
  | _ => none

theorem length_of_slotAt? {cs word after : List Char} (h : slotAt? cs = some (word, after)) :
    after.length < cs.length := by
  unfold slotAt? at h
  split at h
  · rename_i rest
    have shorter := (List.dropWhile_suffix (l := rest) isWordChar).length_le
    simp only at h
    split at h
    · simp at h
    · split at h
      · rename_i found
        rw [found] at shorter
        simp only [Option.some.injEq, Prod.mk.injEq] at h
        obtain ⟨-, rfl⟩ := h
        simp only [List.length_cons] at shorter ⊢
        omega
      · simp at h
  · simp at h

/-- Cuts a template into pieces from left to right. -/
def pieces : List Char → List Piece
  | [] => []
  | c :: rest =>
    match _cut : slotAt? (c :: rest) with
    | some (word, after) => .slot word :: pieces after
    | none => .char c :: pieces rest
termination_by cs => cs.length
decreasing_by
  · exact length_of_slotAt? _cut
  · exact Nat.lt_succ_self rest.length

/-- How a value is shown in a message: elements of sequences and sets are listed. -/
def display : Value → String
  | .seq _ items => joined ", " (items.map Value.text)
  | .set _ members => joined ", " (members.map Value.text)
  | other => other.text

/-- The text of a piece; a slot without a value has none. -/
def fill (values : OrderedMap String Value) : Piece → Except String String
  | .char c => .ok (String.ofList [c])
  | .slot name =>
    match values.get? (String.ofList name) with
    | some v => .ok (display v)
    | none => .error (String.ofList name)

end Template

/-- A template has a slot for which there is no value. -/
structure UnknownSlot where
  template : String
  slot : String
  deriving DecidableEq, Repr

def UnknownSlot.message (e : UnknownSlot) : String :=
  "Template " ++ Text.quoted e.template ++ " references unknown placeholder '" ++ e.slot ++ "'"

/-- Fills in all slots of a template. -/
def interpolate (template : String) (values : OrderedMap String Value) :
    Except UnknownSlot String :=
  match (Template.pieces template.toList).mapM (Template.fill values) with
  | .ok texts => .ok (String.join texts)
  | .error slot => .error ⟨template, slot⟩

end Rulebook
