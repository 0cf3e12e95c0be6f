import Rulebook.Log
import Rulebook.Proofs.Outcome

/-!
Computations that leave records, read backwards from what they come to. Which records were there
before does not matter for what they say here. Main statements:
* `comesTo_bind`: of two computations in a row, either the first one fails or the second one follows;
* `run_mapError`: stating a failure in other terms changes nothing else;
* `collect_bind`: where the records do not matter, outcomes are put together as plain computations.
-/

namespace Rulebook.Logged

variable {ε δ α β : Type} {x : Logged ε α} {k : α → Logged ε β} {o : Except ε α}

/-- A computation comes to an outcome after some records. -/
def ComesTo (x : Logged ε α) (o : Except ε α) : Prop := ∃ before, (x.run.run before).1 = o

theorem comesTo_collect (x : Logged ε α) : x.ComesTo x.collect.1 := ⟨[], rfl⟩

theorem comesTo_pure_iff {a : α} : ComesTo (ε := ε) (pure a) o ↔ o = .ok a := by
  constructor
  · rintro ⟨_, came⟩
    exact came.symm
  · rintro rfl
    exact ⟨[], rfl⟩

theorem comesTo_throw_iff {e : ε} : ComesTo (α := α) (throw e) o ↔ o = .error e := by
  constructor
  · rintro ⟨_, came⟩
    exact came.symm
  · rintro rfl
    exact ⟨[], rfl⟩

theorem comesTo_ofExcept_iff {y : Except ε α} : ComesTo (ofExcept y) o ↔ o = y := by
  cases y with
  | ok a => exact comesTo_pure_iff
  | error e => exact comesTo_throw_iff

theorem comesTo_bind {o : Except ε β} (h : ComesTo (x >>= k) o) :
    (∃ e, x.ComesTo (.error e) ∧ o = .error e) ∨ ∃ a, x.ComesTo (.ok a) ∧ (k a).ComesTo o := by
  obtain ⟨before, came⟩ := h
  rw [ExceptT.run_bind, StateT.run_bind] at came
  cases first : x.run.run before with
  | mk outcome records =>
    rw [first] at came
    cases outcome with
    | error e => exact .inl ⟨e, ⟨before, by rw [first]⟩, came.symm⟩
    | ok a => exact .inr ⟨a, ⟨before, by rw [first]⟩, records, came⟩

theorem comesTo_bind_ok {b : β} (h : ComesTo (x >>= k) (.ok b)) :
    ∃ a, x.ComesTo (.ok a) ∧ (k a).ComesTo (.ok b) := by
  rcases comesTo_bind h with ⟨e, _, came⟩ | later
  · cases came
  · exact later

/-- What comes after a first computation may find its records. -/
theorem collect_bind_ok {b : β} (h : (x >>= k).collect.1 = .ok b) :
    ∃ a, x.collect.1 = .ok a ∧ (k a).ComesTo (.ok b) := by
  unfold collect at h ⊢
  rw [ExceptT.run_bind, StateT.run_bind] at h
  cases first : x.run.run [] with
  | mk outcome records =>
    rw [first] at h
    cases outcome with
    | error e => cases h
    | ok a => exact ⟨a, rfl, records, h⟩

theorem collect_bind_error {e : ε} (h : x.collect.1 = .error e) :
    (x >>= k).collect.1 = .error e := by
  unfold collect at h ⊢
  rw [ExceptT.run_bind, StateT.run_bind]
  cases first : x.run.run [] with
  | mk outcome records =>
    rw [first] at h
    cases h
    rfl

/-- Of a computation and what is done with its value only the first can fail. -/
theorem comesTo_error_of_bind_pure {g : α → β} {e : ε}
    (h : ComesTo (do return g (← x)) (.error e)) : x.ComesTo (.error e) := by
  rcases comesTo_bind h with ⟨e, came, same⟩ | ⟨a, _, h⟩
  · cases same
    exact came
  · cases comesTo_pure_iff.mp h

theorem run_mapError (f : ε → δ) (x : Logged ε α) (before : List LogRecord) :
    (mapError f x).run.run before = ((x.run.run before).1.mapError f, (x.run.run before).2) := by
  unfold mapError
  rw [ExceptT.run_bind, StateT.run_bind]
  change (ExceptT.run (_ : Logged δ α)).run (x before).2 = ((x before).1.mapError f, (x before).2)
  cases (x before).1 <;> rfl

theorem comesTo_mapError_ok {f : ε → δ} {a : α} (h : ComesTo (mapError f x) (.ok a)) :
    x.ComesTo (.ok a) := by
  obtain ⟨before, came⟩ := h
  rw [run_mapError] at came
  exact ⟨before, mapError_eq_ok_iff.mp came⟩

theorem collect_mapError_ok {f : ε → δ} {a : α} (h : (mapError f x).collect.1 = .ok a) :
    x.collect.1 = .ok a := by
  rw [collect, run_mapError] at h
  exact mapError_eq_ok_iff.mp h

/-! ## Computations that do not look at the records -/

/-- What a computation comes to is the same whatever was recorded before. -/
def Steady (x : Logged ε α) : Prop :=
  ∀ before before', (x.run.run before).1 = (x.run.run before').1

theorem steady_pure (a : α) : Steady (ε := ε) (pure a) := fun _ _ => rfl

theorem steady_throw (e : ε) : Steady (throw e : Logged ε α) := fun _ _ => rfl

theorem steady_ofExcept (y : Except ε α) : Steady (ofExcept y) := by
  cases y with
  | ok a => exact steady_pure a
  | error e => exact steady_throw e

theorem steady_write (level : LogLevel) (source : LogSource) (text : String) :
    Steady (ε := ε) (write level source text) := fun _ _ => rfl

theorem Steady.bind (steady : Steady x) (next : ∀ a, Steady (k a)) : Steady (x >>= k) := by
  intro before before'
  have same := steady before before'
  simp only [ExceptT.run_bind, StateT.run_bind]
  cases first : x.run.run before with
  | mk outcome records =>
    cases second : x.run.run before' with
    | mk outcome' records' =>
      rw [first, second] at same
      cases same
      cases outcome with
      | error e => rfl
      | ok a => exact next a records records'

theorem Steady.mapError (steady : Steady x) (f : ε → δ) : Steady (mapError f x) := by
  intro before before'
  rw [run_mapError, run_mapError, steady before before']

theorem collect_mapError (f : ε → δ) (x : Logged ε α) :
    (mapError f x).collect.1 = x.collect.1.mapError f := by
  rw [collect, run_mapError]
  rfl

/-- Nothing is recorded before the second computation. -/
theorem collect_ofExcept_bind (y : Except ε α) :
    (ofExcept y >>= k).collect.1 = y >>= fun a => (k a).collect.1 := by
  cases y <;> rfl

theorem collect_bind (steady : ∀ a, Steady (k a)) :
    (x >>= k).collect.1 = x.collect.1 >>= fun a => (k a).collect.1 := by
  unfold collect
  rw [ExceptT.run_bind, StateT.run_bind]
  cases first : x.run.run [] with
  | mk outcome records =>
    cases outcome with
    | error e => rfl
    | ok a => exact steady a records []

end Rulebook.Logged
