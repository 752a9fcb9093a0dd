import Quarry.Proofs.Document.Dispatch
import Quarry.Proofs.Format.Returns

/-! The lines of a stream that are skipped. Each of them is logged by its number, whenever it is read;
and skipped lines, records and values that do not count make up the lines that are not blank. -/
namespace Quarry.Records

/-- Whether a line is skipped: it is not blank, and what stands in it is no JSON. -/
def isSkipped (line : Text) : Bool :=
  !Text.isBlank line && match Json.read (Text.strip line) with
    | .ok _ | .error .tooDeep => false
    | .error _ => true

/-- Whether a line holds a value that counts in a file of this path. -/
def holdsRecord (path : Path) (line : Text) : Bool :=
  (Json.read (Text.strip line)).toOption.any (counts path)

/-- Whether a line holds a value that does not count, which is neither list nor record, in prose. -/
def holdsIgnored (path : Path) (line : Text) : Bool :=
  (Json.read (Text.strip line)).toOption.any fun value => !counts path value

/-- The numbers of the lines that are skipped, where the first line has the number one. -/
def skippedNumbers (lines : List Text) : List Nat :=
  (lines.zipIdx 1).filterMap fun (line, number) => if isSkipped line then some number else none

/-- The log entry of a line that is skipped. -/
def skippedEntry (number : Nat) : Entry :=
  ⟨.debug, .records,
    "JSONL line ".toList ++ Text.ofNat number ++ " skipped (invalid JSON)".toList⟩

theorem read_strip_of_isBlank (line : Text) (h : Text.isBlank line = true) :
    Json.read (Text.strip line) = .error .malformed := by
  rw [(Text.strip_eq_nil_iff line).2 h]
  rfl

theorem skipped?_ofText (containersOnly : Bool) (line : Text) (number : Nat) :
    skipped? (Line.ofText containersOnly line, number) =
      if isSkipped line then some (skippedEntry number) else none := by
  by_cases hblank : Text.isBlank line = true
  · rw [Line.ofText, (Text.strip_eq_nil_iff line).2 hblank, isSkipped, hblank]
    rfl
  · have hbody : ¬(Text.strip line).isEmpty = true := by
      rwa [List.isEmpty_iff, Text.strip_eq_nil_iff]
    rw [Line.ofText, if_neg hbody, isSkipped, Bool.eq_false_iff.2 hblank]
    cases hread : Json.read (Text.strip line) with
    | error error => cases error <;> rfl
    | ok value =>
      dsimp only
      split
      · rfl
      · rfl

/-- Of lines that have been read, exactly the skipped ones are logged, in order. -/
theorem filterMap_skipped? (containersOnly : Bool) (lines : List Text) :
    ((lines.map (Line.ofText containersOnly)).zipIdx 1).filterMap skipped? =
      (skippedNumbers lines).map skippedEntry := by
  rw [List.zipIdx_map, List.filterMap_map, skippedNumbers, List.map_filterMap]
  apply List.filterMap_congr
  rintro ⟨line, number⟩ -
  refine (skipped?_ofText containersOnly line number).trans ?_
  dsimp only
  split
  · rfl
  · rfl

theorem takeWhile_zipIdx {α : Type} (holds : α → Bool) (items : List α) (number : Nat) :
    ((items.zipIdx number).takeWhile fun item => holds item.1) =
      (items.takeWhile holds).zipIdx number := by
  induction items generalizing number with
  | nil => rfl
  | cons item others ih =>
    rw [List.zipIdx_cons, List.takeWhile_cons, List.takeWhile_cons]
    split
    · rw [List.zipIdx_cons, ih]
    · rfl

theorem takeWhile_congr {α : Type} (holds counts : α → Bool) (items : List α)
    (h : ∀ item ∈ items, holds item = counts item) :
    items.takeWhile holds = items.takeWhile counts := by
  induction items with
  | nil => rfl
  | cons item others ih =>
    obtain ⟨hitem, hothers⟩ := List.forall_mem_cons.1 h
    rw [List.takeWhile_cons, List.takeWhile_cons, hitem, ih hothers]

section

variable (path : Path)

theorem holdsRecord_eq (line : Text) : holdsRecord path line =
    (Line.ofText (Promise.ofPath path).containersOnly line).record?.isSome := by
  rw [record?_ofText, Option.isSome_filter, holdsRecord]
  congr 1
  funext value
  exact counts_eq path value

theorem length_accepted (content : Text) :
    (accepted path content).length = (Text.lines content).countP (holdsRecord path) := by
  rw [accepted, List.length_filterMap_eq_countP]
  simp only [Option.isSome_filter]
  rfl

theorem length_skippedNumbers (lines : List Text) :
    (skippedNumbers lines).length = lines.countP isSkipped := by
  have hsome : (fun line : Text × Nat => (if isSkipped line.1 then some line.2 else none).isSome) =
      isSkipped ∘ Prod.fst := by
    funext line
    dsimp only [Function.comp]
    split
    · rename_i h
      exact h.symm
    · rename_i h
      exact (Bool.eq_false_iff.2 h).symm
  rw [skippedNumbers, List.length_filterMap_eq_countP, hsome, ← List.countP_map, List.zipIdx_map_fst]

variable (content : Text) (hlines : ¬HoldsTooDeep content)

include hlines

theorem isTooDeep_of_mem (containersOnly : Bool) (line : Text) (hline : line ∈ Text.lines content) :
    (Line.ofText containersOnly line).isTooDeep = false := by
  rw [← Bool.not_eq_true, isTooDeep_ofText]
  exact fun hdeep => hlines ⟨line, hline, hdeep⟩

/-- A line that is not blank is skipped, holds a record, or holds a value that does not count. -/
theorem length_filled : (accepted path content).length +
    (skippedNumbers (Text.lines content)).length +
      (Text.lines content).countP (holdsIgnored path) = (Text.filled content).length := by
  have hread : ∀ line ∈ Text.lines content, Json.read (Text.strip line) ≠ .error .tooDeep :=
    fun line hline hdeep => hlines ⟨line, hline, hdeep⟩
  rw [length_accepted, length_skippedNumbers, Text.filled, ← List.countP_eq_length_filter]
  generalize Text.lines content = lines at hread
  induction lines with
  | nil => rfl
  | cons line others ih =>
    obtain ⟨hline, hothers⟩ := List.forall_mem_cons.1 hread
    have hcounted := ih hothers
    -- Of a line that is not blank exactly one of the three holds, and of a blank one none.
    have hkind : (if holdsRecord path line then 1 else 0) + (if isSkipped line then 1 else 0) +
        (if holdsIgnored path line then 1 else 0) = if !Text.isBlank line then 1 else 0 := by
      by_cases hblank : Text.isBlank line = true
      · simp [holdsRecord, isSkipped, holdsIgnored, hblank, read_strip_of_isBlank line hblank,
          Except.toOption]
      · cases hvalue : Json.read (Text.strip line) with
        | ok value =>
          cases hcounts : counts path value <;>
            simp [holdsRecord, isSkipped, holdsIgnored, hblank, hvalue, Except.toOption, hcounts]
        | error error =>
          cases error with
          | tooDeep => exact absurd hvalue hline
          | malformed | hugeInteger =>
            simp [holdsRecord, isSkipped, holdsIgnored, hblank, hvalue, Except.toOption]
    simp only [List.countP_cons]
    omega

theorem all_log (containersOnly : Bool) : (all containersOnly content).log =
    (skippedNumbers (Text.lines content)).map skippedEntry := by
  have hpass : ∀ line ∈ readLines containersOnly content, (!line.1.isTooDeep) = true := by
    rw [readLines_eq]
    intro line hline
    obtain ⟨text, htext, hread⟩ := List.mem_map.1 (List.fst_mem_of_mem_zipIdx hline)
    rw [← hread, isTooDeep_of_mem content hlines containersOnly text htext]
    rfl
  rw [all, List.takeWhile_eq_self_iff.2 hpass, readLines_eq, filterMap_skipped?]

/-- Looking for a record, lines are read up to the first one that holds one. -/
theorem exist_log : (exist (Promise.ofPath path).containersOnly content).log =
    (skippedNumbers ((Text.lines content).takeWhile fun line => !holdsRecord path line)).map
      skippedEntry := by
  -- The search stops at records and at what nests too deeply, of which there is nothing here.
  have hpassed : ∀ line ∈ Text.lines content,
      (Line.ofText (Promise.ofPath path).containersOnly line).isPassed = !holdsRecord path line := by
    intro line hline
    have hdeep := isTooDeep_of_mem content hlines (Promise.ofPath path).containersOnly line hline
    rw [holdsRecord_eq]
    cases hholds : Line.ofText (Promise.ofPath path).containersOnly line with
    | blank | malformed | ignored | record value => rfl
    | tooDeep =>
      rw [hholds] at hdeep
      cases hdeep
  rw [exist_eq, readLines_eq]
  dsimp only
  rw [takeWhile_zipIdx, List.takeWhile_map, filterMap_skipped?]
  congr 2
  exact takeWhile_congr _ _ _ hpassed

end

end Quarry.Records
