import Quarry.Document
import Quarry.Proofs.Trace

/-! What is logged before a document has been read. Of all log entries only the last one of a
document tells that it has been read. -/
namespace Quarry

/-- A log entry that tells of a document that has been read. -/
def Entry.TellsParsed (entry : Entry) : Prop := "Parsed ".toList <+: entry.message

namespace Traced

/-- Nothing that is logged tells of a document that has been read. -/
def Quiet {α : Type} (run : Traced α) : Prop := ∀ entry ∈ run.log, ¬entry.TellsParsed

section

variable {α β : Type}

theorem quiet_pure (a : α) : (pure a : Traced α).Quiet := by
  intro entry h
  cases h

theorem quiet_fail (fault : Fault) : (fail fault : Traced α).Quiet := by
  intro entry h
  cases h

theorem quiet_ofExcept (outcome : Except Fault α) : (ofExcept outcome).Quiet := by
  intro entry h
  cases h

/-- What is reported tells nothing of the kind if it starts otherwise. -/
theorem quiet_report (level : Level) (origin : Origin) (c : Char) (rest : Text) (hc : c ≠ 'P') :
    (report level origin (c :: rest)).Quiet := by
  intro entry h
  obtain rfl := List.mem_singleton.1 h
  intro hparsed
  exact hc (List.cons_prefix_cons.1 hparsed).1.symm

theorem quiet_bind (first : Traced α) (next : α → Traced β) (hfirst : first.Quiet)
    (hnext : ∀ a, (next a).Quiet) : (first >>= next).Quiet := by
  intro entry h
  rcases mem_log_bind first next entry h with h | ⟨a, -, h⟩
  · exact hfirst entry h
  · exact hnext a entry h

end

end Traced

namespace Records

theorem not_tellsParsed_of_skipped (line : Line × Nat) (entry : Entry)
    (h : skipped? line = some entry) : ¬entry.TellsParsed := by
  obtain ⟨line, number⟩ := line
  cases line <;> simp [skipped?] at h
  subst h
  intro hparsed
  exact absurd (List.cons_prefix_cons.1 hparsed).1 (by decide)

variable (containersOnly : Bool) (content : Text)

theorem all_quiet : (all containersOnly content).Quiet := by
  intro entry h
  obtain ⟨line, -, hline⟩ := List.mem_filterMap.1 h
  exact not_tellsParsed_of_skipped line entry hline

theorem exist_quiet : (exist containersOnly content).Quiet := by
  intro entry h
  obtain ⟨line, -, hline⟩ := List.mem_filterMap.1 h
  exact not_tellsParsed_of_skipped _ entry hline

theorem flatten_quiet (policy : Policy) : (flatten policy containersOnly content).Quiet := by
  apply Traced.quiet_bind _ _ (all_quiet containersOnly content)
  intro records
  apply Traced.quiet_bind
  · exact Traced.quiet_report _ _ 'F' _ (by decide)
  · intro _
    exact Traced.quiet_pure _

end Records

namespace Detector

variable (detector : Detector) (promise : Promise) (content : Text)

theorem whole_quiet : (detector.whole content).Quiet := by
  rw [whole]
  split
  · split
    · exact Traced.quiet_pure _
    · exact Traced.quiet_fail _
    · exact Traced.quiet_pure _
  · exact Traced.quiet_pure _

theorem wholeAs_quiet : (detector.wholeAs promise content).Quiet := by
  apply Traced.quiet_bind _ _ (whole_quiet detector content)
  intro found
  cases found with
  | none => exact Traced.quiet_pure _
  | some value =>
    dsimp only
    split
    · exact Traced.quiet_pure _
    · split
      · exact Traced.quiet_pure _
      · exact Traced.quiet_pure _

theorem classifyAs_quiet : (detector.classifyAs promise content).Quiet := by
  unfold classifyAs
  split
  · exact Traced.quiet_pure _
  · apply Traced.quiet_bind _ _ (wholeAs_quiet detector _ content)
    intro found
    cases found with
    | some detected => exact Traced.quiet_pure _
    | none =>
      apply Traced.quiet_bind _ _ (Records.exist_quiet _ content)
      intro hasRecords
      exact Traced.quiet_pure _

end Detector

namespace Sandbox

theorem resolve_quiet (sandbox : Sandbox) (disk : Disk) (requested : Option Text) :
    (sandbox.resolve disk requested).Quiet := by
  unfold resolve
  split
  · exact Traced.quiet_fail _
  · split
    · exact Traced.quiet_fail _
    · apply Traced.quiet_bind _ _ (Traced.quiet_ofExcept _)
      intro base
      apply Traced.quiet_bind _ _ (Traced.quiet_ofExcept _)
      intro path
      split
      · exact Traced.quiet_pure _
      · apply Traced.quiet_bind
        · exact Traced.quiet_report _ _ 'R' _ (by decide)
        · intro _
          exact Traced.quiet_fail _

theorem check_quiet (sandbox : Sandbox) (disk : Disk) (requested : Option Text) :
    (sandbox.check disk requested).Quiet := by
  apply Traced.quiet_bind _ _ (resolve_quiet sandbox disk requested)
  intro path
  apply Traced.quiet_bind _ _ (Traced.quiet_ofExcept _)
  intro size
  exact Traced.quiet_pure _

end Sandbox

namespace DocumentReader

variable (reader : DocumentReader) (path : Path) (content : Text)

theorem checkContentSize_quiet : (reader.checkContentSize path content).Quiet := by
  unfold checkContentSize
  split
  · exact Traced.quiet_fail _
  · exact Traced.quiet_pure _

theorem logFallback_quiet : (logFallback path).Quiet := by
  unfold logFallback
  split
  · exact Traced.quiet_report _ _ 'J' _ (by decide)
  · exact Traced.quiet_pure _

theorem render_quiet (format : Format) : (reader.render format path content).Quiet := by
  unfold render
  split
  · exact Traced.quiet_ofExcept _
  · exact Records.flatten_quiet _ content _
  · exact Traced.quiet_pure _

theorem readText_quiet (disk : Disk) : (readText disk path).Quiet := by
  unfold readText
  split
  · exact Traced.quiet_pure _
  · exact Traced.quiet_fail _

end DocumentReader
end Quarry
