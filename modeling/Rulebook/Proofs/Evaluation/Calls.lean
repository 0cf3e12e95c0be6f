import Rulebook.Proofs.Evaluation.Faults

/-!
What evaluations leave in their record. Main statements:
* `question_of_mem_calls`: a recorded question is one of the rule, about something inside the input
  or about nothing;
* `run_error_iff`: where answers depend on nothing but the question, an evaluation breaks off exactly
  if one of its recorded questions does.
-/

namespace Rulebook

variable {oracle : Oracle} {c : Compiler}

mutual

theorem question_of_mem_calls {before : List Call} {rule : Rule} {x : Value} {calls : List Call}
    {outcome : Except Fault Bool} (judged : Judges oracle before rule x calls outcome) {call : Call}
    (member : call ∈ calls) :
    ∃ q ∈ rule.questions, ∃ y : Value, (y.Inside x ∨ y = .absent) ∧
      call = ⟨q.1, q.2 ++ [y]⟩ := by
  match judged with
  | .key =>
    cases List.mem_singleton.mp member
    exact ⟨_, List.mem_singleton_self _, x, .inl .self, by simp⟩
  | .val found =>
    cases List.mem_singleton.mp member
    exact ⟨_, List.mem_singleton_self _, _, inside_of_fetch found, rfl⟩
  | .valFault _ => cases member
  | .each found all =>
    obtain ⟨task, known, q, asked, y, place, same⟩ := question_of_mem_callsAll all member
    obtain ⟨item, here, rfl⟩ := List.mem_map.mp known
    refine ⟨q, asked, y, place.imp_left fun inner => ?_, same⟩
    rcases inside_of_fetch found with outer | none
    · exact (inner.trans (.item here .self)).trans outer
    · cases none
  | .eachOther _ _ => cases member
  | .eachFault _ => cases member
  | .set found all =>
    obtain ⟨task, known, q, asked, y, place, same⟩ := question_of_mem_callsAll all member
    obtain ⟨rule, here, rfl⟩ := List.mem_map.mp known
    refine ⟨q, Rule.mem_questionsOfAll_iff.mpr ⟨rule, here, asked⟩, y,
      place.imp_left fun inner => ?_, same⟩
    rcases inside_of_fetch found with outer | none
    · exact inner.trans outer
    · cases none
  | .setOther _ _ => cases member
  | .setFault _ => cases member
  | .leftFault first =>
    obtain ⟨q, asked, rest⟩ := question_of_mem_calls first member
    exact ⟨q, List.mem_append_left _ asked, rest⟩
  | .leftDecides first _ _ =>
    obtain ⟨q, asked, rest⟩ := question_of_mem_calls first member
    exact ⟨q, List.mem_append_left _ asked, rest⟩
  | .both first _ second =>
    rcases List.mem_append.mp member with member | member
    · obtain ⟨q, asked, rest⟩ := question_of_mem_calls first member
      exact ⟨q, List.mem_append_left _ asked, rest⟩
    · obtain ⟨q, asked, rest⟩ := question_of_mem_calls second member
      exact ⟨q, List.mem_append_right _ asked, rest⟩

theorem question_of_mem_callsAll {before : List Call} {tasks : List (Rule × Value)}
    {calls : List Call} {outcome : Except Fault Bool}
    (all : JudgesAll oracle before tasks calls outcome) {call : Call} (member : call ∈ calls) :
    ∃ task ∈ tasks, ∃ q ∈ task.1.questions, ∃ y : Value,
      (y.Inside task.2 ∨ y = .absent) ∧ call = ⟨q.1, q.2 ++ [y]⟩ := by
  match all with
  | .nil => cases member
  | .fault first => exact ⟨_, List.mem_cons_self .., question_of_mem_calls first member⟩
  | .cons first others =>
    rcases List.mem_append.mp member with member | member
    · exact ⟨_, List.mem_cons_self .., question_of_mem_calls first member⟩
    · obtain ⟨task, known, rest⟩ := question_of_mem_callsAll others member
      exact ⟨task, List.mem_cons_of_mem _ known, rest⟩

end

theorem map_eq_error_iff {ε α β : Type} {x : Except ε α} {g : α → β} {e : ε} :
    x.map g = .error e ↔ x = .error e := by
  cases x <;> simp [Except.map]

variable {answer : Call → Except Fault Bool}

mutual

/-- Names are never refused, so nothing but a question breaks off; and what does is recorded. -/
theorem error_iff_exists_call {before : List Call} {rule : Rule} {x : Value} {calls : List Call}
    {outcome : Except Fault Bool} (judged : Judges (.ofAnswers answer) before rule x calls outcome)
    (formed : rule.WellFormed c) (f : Fault) :
    outcome = .error f ↔ ∃ call ∈ calls, answer call = .error f := by
  match judged with
  | @Judges.key _ _ name p arguments _ =>
    have named := Value.isKey_of_isName (Value.isName_of_isName_false formed.1)
    obtain ⟨subject, found⟩ := exists_fetch named x
    rw [found, bind_eq_error_iff]
    simp only [List.mem_singleton, exists_eq_left]
    refine ⟨fun broken => ?_, .inl⟩
    rcases broken with refused | ⟨_, _, later⟩
    · exact refused
    · cases later
  | .val _ => simp [Oracle.ofAnswers]
  | .valFault missed =>
    obtain ⟨subject, found⟩ := exists_fetch (Value.isKey_of_isName formed.1) x
    cases found.symm.trans missed
  | .each found all =>
    refine error_iff_exists_callAll all (fun task member => ?_) f
    obtain ⟨item, _, rfl⟩ := List.mem_map.mp member
    exact formed.2
  | .eachOther _ _ => simp
  | .eachFault missed =>
    obtain ⟨subject, found⟩ := exists_fetch (Value.isKey_of_isName formed.1) x
    cases found.symm.trans missed
  | .set found all =>
    refine error_iff_exists_callAll all (fun task member => ?_) f
    obtain ⟨rule, here, rfl⟩ := List.mem_map.mp member
    exact Rule.wellFormed_of_mem formed.2.2.2 here
  | .setOther _ _ => simp
  | .setFault missed =>
    obtain ⟨subject, found⟩ := exists_fetch (Value.isKey_of_isName formed.1) x
    cases found.symm.trans missed
  | .leftFault first => exact error_iff_exists_call first formed.1 f
  | .leftDecides first _ _ =>
    rw [← error_iff_exists_call first formed.1 f]
    exact iff_of_false nofun nofun
  | .both first _ second =>
    have left := error_iff_exists_call first formed.1 f
    have right := error_iff_exists_call second formed.2 f
    rw [map_eq_error_iff, right]
    simp only [List.mem_append, or_and_right, exists_or, ← left, reduceCtorEq, false_or]

theorem error_iff_exists_callAll {before : List Call} {tasks : List (Rule × Value)}
    {calls : List Call} {outcome : Except Fault Bool}
    (all : JudgesAll (.ofAnswers answer) before tasks calls outcome)
    (formed : ∀ task ∈ tasks, task.1.WellFormed c) (f : Fault) :
    outcome = .error f ↔ ∃ call ∈ calls, answer call = .error f := by
  match all with
  | .nil => simp
  | .fault first => exact error_iff_exists_call first (formed _ (List.mem_cons_self ..)) f
  | .cons first others =>
    have head := error_iff_exists_call first (formed _ (List.mem_cons_self ..)) f
    have tail := error_iff_exists_callAll others
      (fun task member => formed task (List.mem_cons_of_mem _ member)) f
    rw [map_eq_error_iff, tail]
    simp only [List.mem_append, or_and_right, exists_or, ← head, reduceCtorEq, false_or]

end

theorem question_of_run {rule : Rule} {x : Value} {call : Call}
    (member : call ∈ (rule.run oracle x).2) :
    ∃ q ∈ rule.questions, ∃ y : Value, (y.Inside x ∨ y = .absent) ∧ call = ⟨q.1, q.2 ++ [y]⟩ :=
  question_of_mem_calls ((run_eq_iff_judges oracle rule x _ _).mp ⟨rfl, rfl⟩) member

theorem run_error_iff {rule : Rule} (formed : rule.WellFormed c) (x : Value) (f : Fault) :
    (rule.run (.ofAnswers answer) x).1 = .error f ↔
      ∃ call ∈ (rule.run (.ofAnswers answer) x).2, answer call = .error f := by
  rw [← map_eq_error_iff (g := Result.isSuccess)]
  exact error_iff_exists_call ((run_eq_iff_judges _ rule x _ _).mp ⟨rfl, rfl⟩) formed f

end Rulebook
