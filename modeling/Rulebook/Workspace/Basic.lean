import Rulebook.Workspace.Path
import Rulebook.Json.Reader
import Rulebook.Fault

/-!
The files that a program sees, and the documents in them. Nothing here changes a file, so the
state of all files is one value. Documents are in JSON notation or in the general one, and how the
general one is read is supplied from outside.
-/

namespace Rulebook

/-- What is in a file: bytes, or a document that has been read from it already. -/
inductive Content where
  | bytes (bs : List UInt8)
  | document (v : Value)

/-- What stands at a path. Devices and pipes are left out. -/
inductive FileStatus where
  /-- Nothing, or a link that leads nowhere. -/
  | missing
  /-- A name on the way belongs to a file. -/
  | throughFile
  /-- The path or a name on the way is longer than any that a file can have. -/
  | tooLong
  /-- The path holds a character that no name has. -/
  | unnameable
  /-- A directory on the way may not be searched. -/
  | unsearchable
  | directory
  /-- A file that may not be read. -/
  | unreadable
  | file (content : Content)

/-- Why a supplied reader has no document for a text. -/
inductive NotationError where
  /-- The text is no document in the notation. -/
  | malformed
  /-- A part is written like a value and stands for none, as a day does that its month lacks. -/
  | noValue
  /-- The reader breaks off for a reason of its own. -/
  | brokenOff (fault : Fault)
  deriving DecidableEq, Repr

/-- A reader of documents in the general notation, as it is supplied. -/
structure Reader where
  read : String → Except NotationError Value
  /-- What the reader complains of when it is given the bytes of a file bit by bit, before it comes
  to the bytes that are no text. -/
  readAhead : List UInt8 → Option NotationError := fun _ => none

/-- A reader for where no other one is supplied: it takes documents that are in JSON notation, and a
blank text for null. -/
def Reader.json : Reader where
  read s :=
    if s.toList.all Json.isBlank then .ok .null
    else match Json.read s with
      | some v => .ok v
      | none => .error .malformed

/-- What stands at every path, and how the documents there are read. -/
structure Workspace where
  status : Path → FileStatus
  reader : Reader

instance : CoeFun Workspace fun _ => Path → FileStatus := ⟨Workspace.status⟩

/-- An entry of a tree of files. -/
inductive TreeEntry where
  | directory
  | file (content : Content)

namespace Workspace

/-- What a tree of files has at a place: an entry, or a directory on the way to one. -/
def entryAt (entries : List (List String × TreeEntry)) (place : List String) : Option TreeEntry :=
  match entries.find? (·.1 = place) with
  | some (_, entry) => some entry
  | none => if entries.any fun e => place.isPrefixOf e.1 then some .directory else none

/-- The greatest number of bytes in a name. -/
def nameLimit : Nat := 255

/-- The greatest number of bytes in a path. -/
def pathLimit : Nat := 4095

/-- Follows names from a directory of the tree; two points lead to the directory above. Nothing is
known above the tree. -/
def follow (entries : List (List String × TreeEntry)) (place : List String) :
    List String → FileStatus
  | [] => .directory
  | step :: rest =>
    if step = ".." then
      if place.isEmpty then .missing else follow entries place.dropLast rest
    else if nameLimit < step.utf8ByteSize then .tooLong
    else
      match entryAt entries (place ++ [step]) with
      | none => .missing
      | some .directory => follow entries (place ++ [step]) rest
      | some (.file content) => if rest.isEmpty then .file content else .throughFile

/-- Whether a text holds the character that ends names. -/
def isUnnameable (s : String) : Bool := s.toList.contains '\x00'

/-- The files of a tree, which stand in the current directory. The top of all files holds nothing
else. -/
def ofTree (entries : List (List String × TreeEntry)) (reader : Reader := .json) : Workspace where
  reader
  status p :=
    if isUnnameable p.text then .unnameable
    else if pathLimit < p.text.utf8ByteSize then .tooLong
    else if p.root = .here then follow entries [] p.parts
    else follow [] [] (p.parts.dropWhile (· = ".."))

/-- Whether a file stands at a path, readable or not. -/
def isFile (w : Workspace) (p : Path) : Bool :=
  match w p with
  | .file _ | .unreadable => true
  | _ => false

end Workspace

/-- Why a document cannot be read. -/
inductive ReadError where
  | missing
  | throughFile
  | tooLong
  | unnameable
  /-- The file, or a directory on the way to it, may not be entered. -/
  | forbidden
  | isDirectory
  /-- The bytes are no text. -/
  | notText
  /-- The text is no document in the general notation. -/
  | malformed
  /-- A part of the text is written like a value and stands for none. -/
  | noValue
  /-- The reader broke off. -/
  | brokenOff (fault : Fault)
  /-- The text is no document in JSON notation. -/
  | malformedJson
  deriving DecidableEq, Repr

namespace ReadError

/-- Whether the error is reported as one of the set-up where a schema or messages are read. Paths
that cannot be named, text that cannot be decoded and what a reader says beside refusing the
notation are not. -/
def isReported : ReadError → Bool
  | .notText | .unnameable | .noValue | .brokenOff _ => false
  | _ => true

/-- Whether the error is reported where the input is read: only a reader that breaks off is not. -/
def isReportedForInput : ReadError → Bool
  | .brokenOff _ => false
  | _ => true

def ofNotation : NotationError → ReadError
  | .malformed => .malformed
  | .noValue => .noValue
  | .brokenOff f => .brokenOff f

end ReadError

/-- Why a path cannot be looked up, so that not even whether a file is there is known. -/
def FileStatus.refusal? : FileStatus → Option ReadError
  | .tooLong => some .tooLong
  | .unsearchable => some .forbidden
  | _ => none

namespace Workspace

/-- The content of a file. -/
def content (w : Workspace) (p : Path) : Except ReadError Content :=
  match w p with
  | .missing => .error .missing
  | .throughFile => .error .throughFile
  | .tooLong => .error .tooLong
  | .unnameable => .error .unnameable
  | .unsearchable | .unreadable => .error .forbidden
  | .directory => .error .isDirectory
  | .file content => .ok content

/-- The text that bytes stand for. -/
def decode (bs : List UInt8) : Except ReadError String :=
  match String.fromUTF8? ⟨bs.toArray⟩ with
  | some s => .ok s
  | none => .error .notText

/-- The document that a text holds in the general notation. -/
def parse (w : Workspace) (s : String) : Except ReadError Value :=
  (w.reader.read s).mapError .ofNotation

/-- Reads a document in the general notation. The reader takes the text as it is decoded, so it may
refuse what stands before bytes that are no text. -/
def readDocument (w : Workspace) (p : Path) : Except ReadError Value := do
  match ← w.content p with
  | .document v => return v
  | .bytes bs =>
    match decode bs with
    | .ok s => w.parse s
    | .error e => .error (((w.reader.readAhead bs).map .ofNotation).getD e)

/-- Reads a document in the general notation after all of its text has been decoded. -/
def readWhole (w : Workspace) (p : Path) : Except ReadError Value := do
  match ← w.content p with
  | .document v => return v
  | .bytes bs => w.parse (← decode bs)

/-- Reads a document in JSON notation. -/
def readJson (w : Workspace) (p : Path) : Except ReadError Value := do
  match ← w.content p with
  | .document v => return v
  | .bytes bs =>
    match Json.read (← decode bs) with
    | some v => return v
    | none => .error .malformedJson

/-- The ending of names of files in JSON notation, in lower case. -/
def jsonSuffix : String := ".json"

/-- Reads the document that is to be checked: in JSON notation if the name says so in any case. -/
def readInput (w : Workspace) (p : Path) : Except ReadError Value :=
  if p.suffix.toLower = jsonSuffix then w.readJson p else w.readWhole p

end Workspace
end Rulebook
