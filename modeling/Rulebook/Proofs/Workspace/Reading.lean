import Rulebook.Workspace.Basic
import Rulebook.Proofs.Outcome

/-!
How reading a document in the general notation ends, whatever reader is supplied. Main statements:
* `readDocument_eq_ok_iff`: which document a file holds;
* `readDocument_eq_error_iff`: which files cannot be read, for an error that is not reported.
-/

namespace Rulebook

/-- A file stands at a path, one that may be read or one that may not. -/
def Workspace.HasFile (w : Workspace) (path : Path) : Prop :=
  w path = .unreadable ∨ ∃ content, w path = .file content

theorem isFile_iff {w : Workspace} {path : Path} : w.isFile path = true ↔ w.HasFile path := by
  unfold Workspace.isFile Workspace.HasFile
  cases w path <;> simp

/-- A file holds a document: one that has been read, or a text from which the reader takes it. -/
inductive Workspace.Holds (w : Workspace) (path : Path) (v : Value) : Prop
  | known (there : w path = .file (.document v)) : Holds w path v
  | written {bs : List UInt8} {s : String} (there : w path = .file (.bytes bs))
      (decoded : String.fromUTF8? ⟨bs.toArray⟩ = some s) (read : w.reader.read s = .ok v) :
      Holds w path v

/-- The reader has a complaint about a file: about its text, or about what stands before bytes that
are no text. -/
inductive Workspace.Complains (w : Workspace) (path : Path) (e : NotationError) : Prop
  | ofText {bs : List UInt8} {s : String} (there : w path = .file (.bytes bs))
      (decoded : String.fromUTF8? ⟨bs.toArray⟩ = some s) (refused : w.reader.read s = .error e) :
      Complains w path e
  | ahead {bs : List UInt8} (there : w path = .file (.bytes bs))
      (undecodable : String.fromUTF8? ⟨bs.toArray⟩ = none)
      (noticed : w.reader.readAhead bs = some e) : Complains w path e

/-- A file cannot be read, in a way that is not reported: its path is no path, its bytes are no text
and the reader has not complained before it comes to them, or the reader does something else than
refusing the notation. -/
inductive Unreadable (w : Workspace) (path : Path) : ReadError → Prop where
  | unnameable (there : w path = .unnameable) : Unreadable w path .unnameable
  | notText {bs : List UInt8} (there : w path = .file (.bytes bs))
      (undecodable : String.fromUTF8? ⟨bs.toArray⟩ = none)
      (unnoticed : w.reader.readAhead bs = none) : Unreadable w path .notText
  | noValue (complains : w.Complains path .noValue) : Unreadable w path .noValue
  | brokenOff {f : Fault} (complains : w.Complains path (.brokenOff f)) :
      Unreadable w path (.brokenOff f)

section

variable {w : Workspace} {path : Path} {v : Value} {r : ReadError}

/-- Of the complaints of a reader, only that about the notation is reported. -/
theorem unreadable_of_complains {e : NotationError} (complains : w.Complains path e)
    (unreported : (ReadError.ofNotation e).isReported = false) :
    Unreadable w path (.ofNotation e) := by
  cases e with
  | malformed => cases unreported
  | noValue => exact .noValue complains
  | brokenOff f => exact .brokenOff complains

theorem decode_eq_ok_iff {bs : List UInt8} {s : String} :
    Workspace.decode bs = .ok s ↔ String.fromUTF8? ⟨bs.toArray⟩ = some s := by
  unfold Workspace.decode
  cases String.fromUTF8? ⟨bs.toArray⟩ <;> simp

theorem decode_eq_error_iff {bs : List UInt8} :
    Workspace.decode bs = .error r ↔ String.fromUTF8? ⟨bs.toArray⟩ = none ∧ r = .notText := by
  unfold Workspace.decode
  cases String.fromUTF8? ⟨bs.toArray⟩ <;> simp [eq_comm]

theorem content_eq_ok_iff {content : Content} :
    w.content path = .ok content ↔ w path = .file content := by
  unfold Workspace.content
  cases w path <;> simp

theorem readDocument_of_document (there : w path = .file (.document v)) :
    w.readDocument path = .ok v := by
  rw [Workspace.readDocument, content_eq_ok_iff.mpr there]
  rfl

theorem readDocument_of_text {bs : List UInt8} {s : String} (there : w path = .file (.bytes bs))
    (decoded : String.fromUTF8? ⟨bs.toArray⟩ = some s) :
    w.readDocument path = (w.reader.read s).mapError .ofNotation := by
  rw [Workspace.readDocument, content_eq_ok_iff.mpr there, ok_bind]
  simp only [decode_eq_ok_iff.mpr decoded]
  rfl

theorem readDocument_of_undecodable {bs : List UInt8} (there : w path = .file (.bytes bs))
    (undecodable : String.fromUTF8? ⟨bs.toArray⟩ = none) :
    w.readDocument path =
      .error (((w.reader.readAhead bs).map .ofNotation).getD .notText) := by
  rw [Workspace.readDocument, content_eq_ok_iff.mpr there, ok_bind]
  simp only [decode_eq_error_iff.mpr ⟨undecodable, rfl⟩]

/-- Where no file can be read, only a path that is none is not reported. -/
theorem readDocument_of_noFile (noFile : ∀ content, w path ≠ .file content) :
    w.readDocument path = .error r ∧ r.isReported = false ↔
      w path = .unnameable ∧ r = .unnameable := by
  unfold Workspace.readDocument Workspace.content
  cases there : w path with
  | file content => exact absurd there (noFile content)
  | unnameable =>
    constructor
    · rintro ⟨refused, _⟩
      cases refused
      exact ⟨rfl, rfl⟩
    · rintro ⟨_, rfl⟩
      exact ⟨rfl, rfl⟩
  | _ =>
    refine iff_of_false ?_ nofun
    rintro ⟨refused, unreported⟩
    cases refused
    cases unreported

/-- A file is missing in some way, or it holds a document, a text, or bytes that are no text. -/
theorem file_cases (w : Workspace) (path : Path) :
    (∀ content, w path ≠ .file content) ∨ (∃ v, w path = .file (.document v)) ∨
      (∃ bs s, w path = .file (.bytes bs) ∧ String.fromUTF8? ⟨bs.toArray⟩ = some s) ∨
      ∃ bs, w path = .file (.bytes bs) ∧ String.fromUTF8? ⟨bs.toArray⟩ = none := by
  cases there : w path with
  | file content =>
    cases content with
    | document v => exact .inr (.inl ⟨v, rfl⟩)
    | bytes bs =>
      cases decoded : String.fromUTF8? ⟨bs.toArray⟩ with
      | some s => exact .inr (.inr (.inl ⟨bs, s, rfl, decoded⟩))
      | none => exact .inr (.inr (.inr ⟨bs, rfl, decoded⟩))
  | _ => exact .inl nofun

theorem readDocument_eq_ok_iff : w.readDocument path = .ok v ↔ w.Holds path v := by
  constructor
  · intro read
    obtain ⟨content, there, read⟩ := bind_eq_ok_iff.mp read
    have file := content_eq_ok_iff.mp there
    cases content with
    | document v' =>
      cases read
      exact .known file
    | bytes bs =>
      cases decoded : String.fromUTF8? ⟨bs.toArray⟩ with
      | some s =>
        simp only [decode_eq_ok_iff.mpr decoded] at read
        exact .written file decoded (mapError_eq_ok_iff.mp read)
      | none =>
        simp only [decode_eq_error_iff.mpr ⟨decoded, rfl⟩] at read
        cases read
  · rintro (there | ⟨there, decoded, read⟩)
    · exact readDocument_of_document there
    · rw [readDocument_of_text there decoded, read, mapError_ok]

theorem unreadable_of_error (refused : w.readDocument path = .error r)
    (unreported : r.isReported = false) : Unreadable w path r := by
  rcases file_cases w path with noFile | ⟨v, there⟩ | ⟨bs, s, there, decoded⟩ |
    ⟨bs, there, undecodable⟩
  · obtain ⟨there, rfl⟩ := (readDocument_of_noFile noFile).mp ⟨refused, unreported⟩
    exact .unnameable there
  · rw [readDocument_of_document there] at refused
    cases refused
  · rw [readDocument_of_text there decoded] at refused
    cases read : w.reader.read s with
    | ok v =>
      rw [read] at refused
      cases refused
    | error e =>
      rw [read] at refused
      cases refused
      exact unreadable_of_complains (.ofText there decoded read) unreported
  · rw [readDocument_of_undecodable there undecodable] at refused
    cases noticed : w.reader.readAhead bs with
    | none =>
      rw [noticed] at refused
      cases refused
      exact .notText there undecodable noticed
    | some e =>
      rw [noticed] at refused
      cases refused
      exact unreadable_of_complains (.ahead there undecodable noticed) unreported

theorem readDocument_of_complains {e : NotationError} (complains : w.Complains path e) :
    w.readDocument path = .error (.ofNotation e) := by
  cases complains with
  | ofText there decoded refused =>
    rw [readDocument_of_text there decoded, refused]
    rfl
  | ahead there undecodable noticed =>
    rw [readDocument_of_undecodable there undecodable, noticed]
    rfl

theorem readDocument_eq_error_iff :
    w.readDocument path = .error r ∧ r.isReported = false ↔ Unreadable w path r := by
  constructor
  · rintro ⟨refused, unreported⟩
    exact unreadable_of_error refused unreported
  · -- Each way of being unreadable ends the reading in its own way.
    intro unreadable
    cases unreadable with
    | unnameable there =>
      exact (readDocument_of_noFile (by simp [there])).mpr ⟨there, rfl⟩
    | notText there undecodable unnoticed =>
      rw [readDocument_of_undecodable there undecodable, unnoticed]
      exact ⟨rfl, rfl⟩
    | noValue complains => exact ⟨readDocument_of_complains complains, rfl⟩
    | brokenOff complains => exact ⟨readDocument_of_complains complains, rfl⟩

end

end Rulebook
