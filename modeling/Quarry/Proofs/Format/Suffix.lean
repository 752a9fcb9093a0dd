import Quarry.Format

/-! What a path promises, told by its suffix alone. -/
namespace Quarry.Promise

/-- The suffixes that settle the format, whatever the content is. -/
def settledSuffixes : List Text :=
  [".docx".toList, ".htm".toList, ".html".toList, ".markdown".toList, ".md".toList, ".pdf".toList]

/-- The suffixes that promise a stream. -/
def streamSuffixes : List Text := [".jsonl".toList, ".ndjson".toList]

/-- The suffixes that promise JSON, as one document or as a stream. -/
def jsonSuffixes : List Text := ".json".toList :: streamSuffixes

variable (path : Path)

theorem ofPath_of_mem (promise : Promise)
    (h : (Text.lower path.suffix, promise) ∈ suffixes) : ofPath path = promise := by
  simp only [suffixes, List.mem_cons, List.not_mem_nil, or_false, Prod.mk.injEq] at h
  rcases h with ⟨h, rfl⟩ | ⟨h, rfl⟩ | ⟨h, rfl⟩ | ⟨h, rfl⟩ | ⟨h, rfl⟩ | ⟨h, rfl⟩ | ⟨h, rfl⟩ |
    ⟨h, rfl⟩ | ⟨h, rfl⟩ | ⟨h, rfl⟩ <;> rw [ofPath, h] <;> rfl

/-- What a path promises stands beside its suffix, or the suffix is not known. -/
theorem mem_suffixes (h : ofPath path ≠ .anything) :
    (Text.lower path.suffix, ofPath path) ∈ suffixes := by
  rw [ofPath] at h ⊢
  cases hlookup : suffixes.lookup (Text.lower path.suffix) with
  | none =>
    rw [hlookup] at h
    exact absurd rfl h
  | some promise =>
    obtain ⟨before, after, hsuffixes, -⟩ := List.lookup_eq_some_iff.1 hlookup
    rw [hsuffixes]
    simp

/-- A path promises something where its suffix stands beside it. -/
theorem ofPath_eq_iff (promise : Promise) (h : promise ≠ .anything) :
    ofPath path = promise ↔ (Text.lower path.suffix, promise) ∈ suffixes := by
  constructor
  · rintro rfl
    exact mem_suffixes path h
  · exact ofPath_of_mem path promise

theorem stream_iff : ofPath path = .stream ↔ Text.lower path.suffix ∈ streamSuffixes := by
  rw [ofPath_eq_iff path _ (by simp)]
  simp [suffixes, streamSuffixes]

theorem document_iff : ofPath path = .document ↔ Text.lower path.suffix = ".json".toList := by
  rw [ofPath_eq_iff path _ (by simp)]
  simp [suffixes]

theorem settled_iff :
    (∃ format, ofPath path = .settled format) ↔ Text.lower path.suffix ∈ settledSuffixes := by
  have hformat (format : Format) := ofPath_eq_iff path (.settled format) (by simp)
  simp only [hformat]
  simp [suffixes, settledSuffixes, exists_or]

/-- A list or a record is asked for where the suffix promises no JSON. -/
theorem containersOnly_iff :
    (ofPath path).containersOnly = false ↔ Text.lower path.suffix ∈ jsonSuffixes := by
  rw [jsonSuffixes, List.mem_cons, ← document_iff, ← stream_iff]
  cases ofPath path <;> simp [containersOnly]

end Quarry.Promise
