import Quarry.Proofs.Trace

/-! Faults that are reported to the caller, as failures of validation or of a file operation. The
other ones end the whole run. -/
namespace Quarry

/-- A fault that the caller is told of. -/
def Fault.IsReported (fault : Fault) : Prop :=
  ∃ failure, fault.failure? = some failure ∧
    (failure.kind = .validation ∨ failure.kind = .fileOperation)

theorem Fault.isReported_iff (fault : Fault) : fault.IsReported ↔ fault.failure? ≠ none := by
  constructor
  · rintro ⟨failure, hfailure, -⟩
    simp [hfailure]
  · intro h
    cases fault <;> first
      | exact ⟨_, rfl, Or.inl rfl⟩
      | exact ⟨_, rfl, Or.inr rfl⟩
      | exact absurd rfl h

namespace Traced

variable {α β : Type}

/-- A run that gives a result, or a fault that the caller is told of. -/
def Reported (run : Traced α) : Prop := ∀ fault, run.outcome = .error fault → fault.IsReported

theorem reported_of_ok (run : Traced α) (a : α) (h : run.outcome = .ok a) : run.Reported := by
  intro fault hfault
  rw [h] at hfault
  cases hfault

theorem reported_pure (a : α) : (pure a : Traced α).Reported := reported_of_ok _ a rfl

theorem reported_of_error (run : Traced α) (fault : Fault) (h : run.outcome = .error fault) :
    run.Reported ↔ fault.IsReported := by
  constructor
  · intro hrun
    exact hrun fault h
  · intro hfault other hother
    rw [h] at hother
    exact Except.error.inj hother ▸ hfault

theorem not_reported_of_error (run : Traced α) (fault : Fault) (h : run.outcome = .error fault)
    (hnone : fault.failure? = none) : ¬run.Reported := by
  intro hrun
  exact (Fault.isReported_iff fault).1 (hrun fault h) hnone

/-- Of a sequence every fault is reported if those of its first part are, and those of the second
one behind a result. -/
theorem reported_bind_iff (first : Traced α) (next : α → Traced β) :
    (first >>= next).Reported ↔
      first.Reported ∧ ∀ a, first.outcome = .ok a → (next a).Reported := by
  constructor
  · intro h
    refine ⟨fun fault hfault => ?_, fun a ha fault hfault => ?_⟩
    · exact h fault (outcome_bind_error first next fault hfault)
    · exact h fault ((outcome_bind_ok first next a ha).trans hfault)
  · rintro ⟨hfirst, hnext⟩ fault hfault
    rcases (outcome_bind_eq_error first next fault).1 hfault with hfault | ⟨a, ha, hfault⟩
    · exact hfirst fault hfault
    · exact hnext a ha fault hfault

theorem reported_bind_of_ok (first : Traced α) (next : α → Traced β) (a : α)
    (h : first.outcome = .ok a) : (first >>= next).Reported ↔ (next a).Reported := by
  rw [Reported, Reported, outcome_bind_ok first next a h]

end Traced
end Quarry
