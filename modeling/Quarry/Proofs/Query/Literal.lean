import Mathlib
import Quarry.Proofs.Query.Exclusion
import Quarry.Proofs.Text.Sigma

/-! Terms that stand in a text letter by letter. They count as found in it, unless the text lowers
a capital sigma of the term to another form than the term does. -/
namespace Quarry.Query

theorem infix_lower_of_occursAlike (term text : Text) (h : Text.OccursAlike term text) :
    Text.lower term <:+: Text.lower text := by
  obtain ⟨before, after, rfl, hkeeps⟩ := h
  exact Text.infix_lower before term after hkeeps

theorem excludes_of_occursAlike (terms : List Text) (text term : Text) (hterm : term ∈ terms)
    (h : Text.OccursAlike term text) : excludes terms text = true :=
  (excludes_iff terms text).2 ⟨term, hterm, infix_lower_of_occursAlike term text h⟩

theorem accepts_of_occursAlike (filter : Filter) (metadata : Json.Fields) (value : Text)
    (hvalue : metadata.lookup filter.field = some (.text value))
    (h : Text.OccursAlike filter.value value) : filter.accepts metadata = true := by
  rw [Filter.accepts, hvalue]
  exact (Text.occursIn_iff _ _).2 (infix_lower_of_occursAlike filter.value value h)

/-- A term is found wherever it stands exactly if it keeps its sigmas between any two texts. -/
theorem excludes_of_infix_iff (term : Text) :
    (∀ text, term <:+: text → excludes [term] text = true) ↔
      ∀ before after, Text.KeepsSigmas before term after := by
  constructor
  · intro h
    apply Text.keepsSigmas_of_infix
    intro text htext
    obtain ⟨run, hrun, hoccurs⟩ := (excludes_iff [term] text).1 (h text htext)
    rwa [List.mem_singleton.1 hrun] at hoccurs
  · rintro h text ⟨before, after, rfl⟩
    apply excludes_of_occursAlike [term] _ term (List.mem_singleton.2 rfl)
    exact ⟨before, after, rfl, h before after⟩

/-- A term that stands in a text where it keeps its sigmas counts for exclusion, for filters and
for what is embedded, and a term counts wherever it stands exactly if it always keeps them. -/
theorem occursAlike_counts (terms : List Text) (text : Text) (filters : List Filter)
    (metadata : Json.Fields) (parsed : Parsed) :
    ((∃ term ∈ terms, Text.OccursAlike term text) → excludes terms text = true) ∧
      ((∀ filter ∈ filters, ∃ value, metadata.lookup filter.field = some (.text value) ∧
        Text.OccursAlike filter.value value) → passes filters (some metadata) = true) ∧
      (∃ kept, parsed.semanticQuery = Text.joined [' '] kept ∧
        kept.Sublist parsed.semanticTerms ∧
          ∀ term ∈ kept, ∀ run ∈ parsed.excludeTerms, ¬Text.OccursAlike run term) ∧
      ∀ term, (∀ other, term <:+: other → excludes [term] other = true) ↔
        ∀ before after, Text.KeepsSigmas before term after := by
  refine ⟨?_, ?_, ⟨parsed.embedded, rfl, ?_, ?_⟩, excludes_of_infix_iff⟩
  · rintro ⟨term, hterm, hoccurs⟩
    exact excludes_of_occursAlike terms text term hterm hoccurs
  · intro h
    rw [passes, List.all_eq_true]
    intro filter hfilter
    obtain ⟨value, hvalue, hoccurs⟩ := h filter hfilter
    exact accepts_of_occursAlike filter metadata value hvalue hoccurs
  · exact List.filter_sublist
  · intro term hterm run hrun hoccurs
    rw [embedded_eq_filter, List.mem_filter, decide_eq_true_eq] at hterm
    have hexcluded := excludes_of_occursAlike parsed.excludeTerms term run hrun hoccurs
    rw [hterm.2] at hexcluded
    cases hexcluded

/-- A final sigma in the middle of a sentence: the word ends there as it ends alone. -/
theorem occursAlike_counts_word :
    Text.OccursAlike "ΟΔΟΣ".toList "Η ΟΔΟΣ, ΑΒ".toList ∧
      excludes ["X".toList, "ΟΔΟΣ".toList] "Η ΟΔΟΣ, ΑΒ".toList = true := by
  have hkeeps : Text.KeepsSigmas "Η ".toList "ΟΔΟΣ".toList ", ΑΒ".toList := by decide
  have hoccurs : Text.OccursAlike "ΟΔΟΣ".toList "Η ΟΔΟΣ, ΑΒ".toList :=
    ⟨"Η ".toList, ", ΑΒ".toList, by decide, hkeeps⟩
  obtain ⟨hexcludes, -⟩ := occursAlike_counts ["X".toList, "ΟΔΟΣ".toList] "Η ΟΔΟΣ, ΑΒ".toList []
    [] (.empty [])
  exact ⟨hoccurs, hexcludes ⟨"ΟΔΟΣ".toList, by decide, hoccurs⟩⟩

/-- A word that goes on behind the term: the sigma at the end of the term is final in the term and
not in the word, so the word passes for one without the term. -/
theorem capitalSigma_is_missed :
    "ΑΣ".toList <:+: "ΑΣΑ".toList ∧
      excludes ["ΑΣ".toList] "ΑΣΑ".toList = false ∧
      passes [⟨"f".toList, "ΑΣ".toList⟩] (some [("f".toList, .text "ΑΣΑ".toList)]) = false ∧
      (parse (some "ΑΣΑ -ΑΣ".toList)).excludeTerms = ["ΑΣ".toList] ∧
      (parse (some "ΑΣΑ -ΑΣ".toList)).semanticQuery = "ΑΣΑ".toList := by
  refine ⟨⟨[], ['Α'], by decide⟩, by decide, by cbv, by cbv, by cbv⟩

end Quarry.Query
