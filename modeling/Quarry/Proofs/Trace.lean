import Quarry.Trace

/-! What a traced operation ends with, from what its parts end with. -/
namespace Quarry.Traced

variable {α β : Type}

@[simp] theorem outcome_pure (a : α) : (pure a : Traced α).outcome = .ok a := rfl

@[simp] theorem outcome_fail (fault : Fault) :
    (fail fault : Traced α).outcome = .error fault := rfl

@[simp] theorem outcome_ofExcept (outcome : Except Fault α) :
    (ofExcept outcome).outcome = outcome := rfl

theorem bind_eq (first : Traced α) (next : α → Traced β) :
    first >>= next = first.andThen next := rfl

theorem pure_bind (a : α) (next : α → Traced β) : pure a >>= next = next a := rfl

theorem ofExcept_ok_bind (a : α) (next : α → Traced β) : ofExcept (.ok a) >>= next = next a := rfl

theorem bind_assoc {γ : Type} (first : Traced α) (next : α → Traced β) (last : β → Traced γ) :
    (first >>= next) >>= last = first >>= fun a => next a >>= last := by
  simp only [bind_eq, andThen]
  cases first.outcome with
  | error fault => rfl
  | ok a =>
    dsimp only
    cases (next a).outcome with
    | error fault => rfl
    | ok b => simp only [List.append_assoc]

theorem outcome_bind_ok (first : Traced α) (next : α → Traced β) (a : α)
    (h : first.outcome = .ok a) : (first >>= next).outcome = (next a).outcome := by
  simp only [bind_eq, andThen, h]

theorem outcome_bind_error (first : Traced α) (next : α → Traced β) (fault : Fault)
    (h : first.outcome = .error fault) : (first >>= next).outcome = .error fault := by
  simp only [bind_eq, andThen, h]

/-- A sequence has a result when both of its parts have one. -/
theorem outcome_bind_eq_ok (first : Traced α) (next : α → Traced β) (b : β) :
    (first >>= next).outcome = .ok b ↔
      ∃ a, first.outcome = .ok a ∧ (next a).outcome = .ok b := by
  cases h : first.outcome with
  | error fault => simp [outcome_bind_error first next fault h]
  | ok a => simp [outcome_bind_ok first next a h]

/-- A sequence ends with a fault of its first part, or of the second one behind a result. -/
theorem outcome_bind_eq_error (first : Traced α) (next : α → Traced β) (fault : Fault) :
    (first >>= next).outcome = .error fault ↔ first.outcome = .error fault ∨
      ∃ a, first.outcome = .ok a ∧ (next a).outcome = .error fault := by
  cases h : first.outcome with
  | error other => simp [outcome_bind_error first next other h]
  | ok a => simp [outcome_bind_ok first next a h]

theorem log_bind_ok (first : Traced α) (next : α → Traced β) (a : α)
    (h : first.outcome = .ok a) : (first >>= next).log = first.log ++ (next a).log := by
  simp only [bind_eq, andThen, h]

/-- What a sequence logs has been logged by one of its parts. -/
theorem mem_log_bind (first : Traced α) (next : α → Traced β) (entry : Entry)
    (h : entry ∈ (first >>= next).log) :
    entry ∈ first.log ∨ ∃ a, first.outcome = .ok a ∧ entry ∈ (next a).log := by
  cases hfirst : first.outcome with
  | error fault =>
    simp only [bind_eq, andThen, hfirst] at h
    exact Or.inl h
  | ok a =>
    rw [log_bind_ok first next a hfirst, List.mem_append] at h
    exact h.imp_right fun hnext => ⟨a, rfl, hnext⟩

/-- What follows is asked for nothing but the result before it. -/
theorem bind_congr (first : Traced α) (next other : α → Traced β)
    (h : ∀ a, first.outcome = .ok a → next a = other a) : first >>= next = first >>= other := by
  simp only [bind_eq, andThen]
  split
  · rfl
  · rename_i a ha
    rw [h a ha]

end Quarry.Traced
