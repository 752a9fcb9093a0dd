import Quarry.Json.Value

/-! Induction over JSON values: leaves, lists of values, and records of values. -/
namespace Quarry.Json

/-- What holds of all leaves, and of lists and records if it holds of their values, holds of every
value. -/
@[elab_as_elim]
theorem Value.induct {motive : Value → Prop}
    (leaf : ∀ value, value.isContainer = false → motive value)
    (list : ∀ items, (∀ item ∈ items, motive item) → motive (.list items))
    (record : ∀ fields, (∀ field ∈ fields, motive field.2) → motive (.record fields))
    (value : Value) : motive value := by
  -- The recursor goes through the items and fields one by one, and through the pairs of the latter.
  refine @Value.rec motive (fun items => ∀ item ∈ items, motive item)
    (fun fields => ∀ field ∈ fields, motive field.2) (fun field => motive field.2)
    (leaf .null rfl) (fun b => leaf (.bool b) rfl) (fun n => leaf (.int n) rfl)
    (fun x => leaf (.real x) rfl) (fun t => leaf (.text t) rfl) list record
    ?_ ?_ ?_ ?_ (fun _ _ h => h) value
  · simp
  · intro item items hitem hitems
    exact List.forall_mem_cons.2 ⟨hitem, hitems⟩
  · simp
  · intro field fields hfield hfields
    exact List.forall_mem_cons.2 ⟨hfield, hfields⟩

end Quarry.Json
