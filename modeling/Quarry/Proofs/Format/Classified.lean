import Quarry.Proofs.Format.Suffix
import Quarry.Proofs.Records.Significant

/-! What a detector makes of content, by what the content is as one JSON value and by the first of
its lines that matters. -/
namespace Quarry

namespace Promise

theorem settled_cases (path : Path) (format : Format) (h : ofPath path = .settled format) :
    format = .docx ∨ format = .html ∨ format = .markdown ∨ format = .pdf := by
  rw [ofPath_eq_iff path _ (by simp)] at h
  simp only [suffixes, List.mem_cons, Prod.mk.injEq, settled.injEq, List.not_mem_nil, or_false,
    reduceCtorEq, and_false, false_or] at h
  rcases h with h | h | h | h | h | h <;> simp [h.2]

end Promise

namespace Detector

open Json (Value)

variable (detector : Detector) (promise : Promise) (content : Text)

/-- The content is short enough to be read as one document and holds a value that counts as one
where it stands. -/
def Takes (value : Value) : Prop :=
  detector.admits content = true ∧ Json.read content = .ok value ∧
    (promise.containersOnly = true → value.isContainer = true)

/-- The content is short enough to be read as one document, and nests too deeply for that. -/
def WholeTooDeep : Prop :=
  detector.admits content = true ∧ Json.read content = .error .tooDeep

/-- What a value that the content is taken for makes of it. -/
def taken (value : Value) : Detected :=
  if promise = .stream && isSingleLine content then .plain .jsonLines else .document value

theorem wholeAs_of_takes (value : Value) (h : detector.Takes promise content value) :
    (detector.wholeAs promise content).outcome = .ok (some (taken promise content value)) := by
  obtain ⟨hadmits, hread, hcontainer⟩ := h
  have hwhole : (detector.whole content).outcome = .ok (some value) := by
    simp [whole, hadmits, hread]
  rw [wholeAs, Traced.outcome_bind_ok _ _ _ hwhole]
  dsimp only
  rw [if_neg (by simpa using hcontainer), taken]
  split
  · rfl
  · rfl

theorem wholeAs_of_tooDeep (h : detector.WholeTooDeep content) :
    (detector.wholeAs promise content).outcome = .error .nestedTooDeeply := by
  have hwhole : (detector.whole content).outcome = .error .nestedTooDeeply := by
    simp [whole, h.1, h.2]
  exact Traced.outcome_bind_error _ _ _ hwhole

theorem wholeAs_of_neither (hvalue : ∀ value, ¬detector.Takes promise content value)
    (hdeep : ¬detector.WholeTooDeep content) :
    (detector.wholeAs promise content).outcome = .ok none := by
  rw [wholeAs, Traced.outcome_bind_eq_ok]
  by_cases hadmits : detector.admits content = true
  · cases hread : Json.read content with
    | error error =>
      refine ⟨none, ?_, rfl⟩
      cases error with
      | tooDeep => exact absurd ⟨hadmits, hread⟩ hdeep
      | malformed => simp [whole, hadmits, hread]
      | hugeInteger => simp [whole, hadmits, hread]
    | ok value =>
      have hscalar : (promise.containersOnly && !value.isContainer) = true := by
        have hnot := hvalue value
        simp only [Takes, hadmits, hread, true_and] at hnot
        simpa using hnot
      refine ⟨some value, by simp [whole, hadmits, hread], ?_⟩
      dsimp only
      rw [if_pos hscalar]
      rfl
  · exact ⟨none, by simp [whole, hadmits], rfl⟩

variable (hpromise : ∀ format, promise ≠ .settled format)

include hpromise

theorem classifyAs_eq : detector.classifyAs promise content =
    detector.wholeAs promise content >>= fun found =>
      match found with
      | some detected => pure detected
      | none => Records.exist promise.containersOnly content >>= fun hasRecords =>
        pure (.plain (if hasRecords || !promise.containersOnly then .jsonLines else .text)) := by
  cases promise with
  | settled format => exact absurd rfl (hpromise format)
  | document | stream | anything => rfl

theorem classifyAs_of_takes (value : Value) (h : detector.Takes promise content value) :
    (detector.classifyAs promise content).outcome = .ok (taken promise content value) := by
  rw [classifyAs_eq detector promise content hpromise,
    Traced.outcome_bind_ok _ _ _ (wholeAs_of_takes detector promise content value h)]
  rfl

theorem classifyAs_of_tooDeep (h : detector.WholeTooDeep content) :
    (detector.classifyAs promise content).outcome = .error .nestedTooDeeply := by
  rw [classifyAs_eq detector promise content hpromise]
  exact Traced.outcome_bind_error _ _ _ (wholeAs_of_tooDeep detector promise content h)

/-- Content that is no document is settled by the first of its lines that is not passed over. -/
theorem classifyAs_of_neither (hvalue : ∀ value, ¬detector.Takes promise content value)
    (hdeep : ¬detector.WholeTooDeep content) :
    (detector.classifyAs promise content).outcome =
      match Records.significant promise.containersOnly content with
      | [] => .ok (.plain (if promise.containersOnly then .text else .jsonLines))
      | line :: _ => if line.isTooDeep then .error .nestedTooDeeply else .ok (.plain .jsonLines) := by
  have hexist := Records.exist_outcome promise.containersOnly content
  rw [classifyAs_eq detector promise content hpromise,
    Traced.outcome_bind_ok _ _ _ (wholeAs_of_neither detector promise content hvalue hdeep)]
  dsimp only
  cases hlines : Records.significant promise.containersOnly content with
  | nil =>
    rw [hlines] at hexist
    rw [Traced.outcome_bind_ok _ _ _ hexist]
    cases promise.containersOnly <;> rfl
  | cons line lines =>
    rw [hlines] at hexist
    dsimp only at hexist ⊢
    by_cases hline : line.isTooDeep = true
    · rw [if_pos hline] at hexist ⊢
      exact Traced.outcome_bind_error _ _ _ hexist
    · rw [if_neg hline] at hexist ⊢
      exact Traced.outcome_bind_ok _ _ _ hexist

omit hpromise

/-- A content is a document only with the value that it is read as, and of the other formats those
that the suffix does not settle are streams and text. -/
theorem classifyAs_eq_ok (detected : Detected)
    (h : (detector.classifyAs promise content).outcome = .ok detected) :
    (∃ value, Json.read content = .ok value ∧ detected = .document value) ∨
      (∃ format, promise = .settled format ∧ detected = .plain format) ∨
        detected = .plain .jsonLines ∨ detected = .plain .text := by
  by_cases hsettled : ∃ format, promise = .settled format
  · obtain ⟨format, rfl⟩ := hsettled
    right
    left
    exact ⟨format, rfl, by simpa [classifyAs] using h.symm⟩
  have hpromise : ∀ format, promise ≠ .settled format := fun format hformat =>
    hsettled ⟨format, hformat⟩
  -- As one value the content is taken for a document, nests too deeply, or is neither of the two.
  by_cases hvalue : ∃ value, detector.Takes promise content value
  · obtain ⟨value, htakes⟩ := hvalue
    rw [classifyAs_of_takes detector promise content hpromise value htakes, taken] at h
    obtain rfl := Except.ok.inj h
    split
    · exact Or.inr (Or.inr (Or.inl rfl))
    · exact Or.inl ⟨value, htakes.2.1, rfl⟩
  by_cases hdeep : detector.WholeTooDeep content
  · rw [classifyAs_of_tooDeep detector promise content hpromise hdeep] at h
    cases h
  rw [classifyAs_of_neither detector promise content hpromise (not_exists.1 hvalue) hdeep] at h
  right
  right
  split at h
  · obtain rfl := Except.ok.inj h
    cases promise.containersOnly with
    | true => exact Or.inr rfl
    | false => exact Or.inl rfl
  · split at h
    · cases h
    · exact Or.inl (Except.ok.inj h).symm

theorem classifyAs_eq_html_iff :
    (detector.classifyAs promise content).outcome = .ok (.plain .html) ↔
      promise = .settled .html := by
  constructor
  · intro h
    rcases classifyAs_eq_ok detector promise content _ h with
      ⟨value, -, hplain⟩ | ⟨format, hsettled, hplain⟩ | hplain | hplain
    · cases hplain
    · cases hplain
      exact hsettled
    · cases hplain
    · cases hplain
  · rintro rfl
    rfl

/-- A stream of lines is what no suffix settles, and no value that the content holds. -/
theorem taken_of_jsonLines (hpromise : promise ≠ .settled .jsonLines)
    (h : (detector.classifyAs promise content).outcome = .ok (.plain .jsonLines)) :
    (∀ format, promise ≠ .settled format) ∧
      ∀ value, detector.Takes promise content value →
        taken promise content value = .plain .jsonLines := by
  have hopen : ∀ format, promise ≠ .settled format := by
    rintro format rfl
    obtain rfl : format = .jsonLines := by simpa [classifyAs] using h
    exact hpromise rfl
  refine ⟨hopen, fun value htakes => ?_⟩
  have htaken := classifyAs_of_takes detector promise content hopen value htakes
  exact Except.ok.inj (htaken.symm.trans h)

/-- Nothing but prose is taken for text. -/
theorem containersOnly_of_text (hpromise : ∀ format, promise ≠ .settled format)
    (h : (detector.classifyAs promise content).outcome = .ok (.plain .text)) :
    promise.containersOnly = true := by
  by_cases hvalue : ∃ value, detector.Takes promise content value
  · obtain ⟨value, htakes⟩ := hvalue
    rw [classifyAs_of_takes detector promise content hpromise value htakes, taken] at h
    split at h <;> cases h
  by_cases hdeep : detector.WholeTooDeep content
  · rw [classifyAs_of_tooDeep detector promise content hpromise hdeep] at h
    cases h
  rw [classifyAs_of_neither detector promise content hpromise (not_exists.1 hvalue) hdeep] at h
  split at h
  · cases honly : promise.containersOnly with
    | true => rfl
    | false =>
      rw [honly] at h
      cases h
  · split at h <;> cases h

end Detector
end Quarry
