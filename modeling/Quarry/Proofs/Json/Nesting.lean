import Quarry.Proofs.Json.Reading

/-! Nesting. A text that opens more lists than may be nested is refused for that alone, whatever
follows, and no text is refused for it that does not open as many lists and records at once. -/
namespace Quarry.Json

/-- How many lists and records are open behind a token. -/
def Token.depthBehind (depth : Nat) : Token → Nat
  | .openList | .openRecord => depth + 1
  | .closeList | .closeRecord => depth - 1
  | _ => depth

/-- The most lists and records that are open at once along tokens. -/
def deepest (depth : Nat) : List Token → Nat
  | [] => depth
  | token :: others => max depth (deepest (token.depthBehind depth) others)

/-- How deep a text nests, whether it is JSON or not. -/
def nesting (text : Text) : Nat := deepest 0 (tokens text)

theorem tokens_openList (rest : Text) : tokens ('[' :: rest) = .openList :: tokens rest :=
  tokensFrom_cons .between '[' rest

theorem tokens_brackets (n : Nat) (rest : Text) :
    tokens (List.replicate n '[' ++ rest) = List.replicate n .openList ++ tokens rest := by
  induction n with
  | zero => rfl
  | succ n ih =>
    rw [List.replicate_succ, List.cons_append, tokens_openList, ih]
    rfl

namespace Reader

/-- How many lists and records are open where a reader stands. -/
def opened : Reader → Nat
  | .value around => around.length
  | .firstItem around | .afterItem _ around | .firstKey around | .nextKey _ around
  | .colon _ _ around | .afterField _ around => around.length + 1
  | .done _ | .failed _ => 0

/-- No more is open than at such a depth, and only the limit makes a reader fail for its depth. -/
structure Bounded (reader : Reader) (depth : Nat) : Prop where
  opened : reader.opened ≤ depth
  failed : reader = .failed .tooDeep → depthLimit ≤ depth

theorem bounded_complete (v : Value) (around : List Frame) (depth : Nat)
    (h : around.length ≤ depth) : (complete v around).Bounded depth := by
  cases around with
  | nil => exact ⟨Nat.zero_le _, by simp [complete]⟩
  | cons frame around => cases frame <;> exact ⟨h, by simp [complete]⟩

theorem bounded_descend (around : List Frame) (opened : Reader) (depth : Nat)
    (hopened : opened.Bounded (depth + 1)) (h : around.length ≤ depth) :
    (descend around opened).Bounded (depth + 1) := by
  unfold descend
  split
  · exact ⟨Nat.zero_le _, fun _ => by omega⟩
  · exact hopened

theorem bounded_takeValue (around : List Frame) (token : Token) (depth : Nat)
    (h : around.length ≤ depth) : (takeValue around token).Bounded (token.depthBehind depth) := by
  cases token with
  | openList => exact bounded_descend _ _ _ ⟨Nat.succ_le_succ h, by simp⟩ h
  | openRecord => exact bounded_descend _ _ _ ⟨Nat.succ_le_succ h, by simp⟩ h
  | text t => exact bounded_complete _ _ _ h
  | atom v => exact bounded_complete _ _ _ h
  | closeList | closeRecord | comma | colon | hugeInteger | malformed =>
    exact ⟨Nat.zero_le _, by simp [takeValue]⟩

/-- What one token does to the number of open lists and records. -/
theorem bounded_push (reader : Reader) (token : Token) (depth : Nat) (h : reader.Bounded depth)
    (hreader : reader ≠ .failed .tooDeep) :
    (push reader token).Bounded (token.depthBehind depth) := by
  obtain ⟨hopened, -⟩ := h
  have hfailed (error : ReadError) (herror : error ≠ .tooDeep) :
      (Reader.failed error).Bounded (token.depthBehind depth) :=
    ⟨Nat.zero_le _, fun hdeep => absurd (Reader.failed.inj hdeep) herror⟩
  cases reader with
  | value around => exact bounded_takeValue around token depth hopened
  | firstItem around =>
    by_cases hend : token = .closeList
    · rw [hend]
      exact bounded_complete _ _ _ (Nat.le_sub_of_add_le hopened)
    · have hpush : push (.firstItem around) token = takeValue (.list [] :: around) token := by
        cases token with
        | closeList => exact absurd rfl hend
        | _ => rfl
      rw [hpush]
      exact bounded_takeValue (.list [] :: around) token depth hopened
  | afterItem items around =>
    cases token with
    | comma => exact ⟨hopened, by simp [push]⟩
    | closeList => exact bounded_complete _ _ _ (Nat.le_sub_of_add_le hopened)
    | _ => exact hfailed .malformed (by decide)
  | firstKey around =>
    cases token with
    | closeRecord => exact bounded_complete _ _ _ (Nat.le_sub_of_add_le hopened)
    | text key => exact ⟨hopened, by simp [push]⟩
    | _ => exact hfailed .malformed (by decide)
  | nextKey fields around =>
    cases token with
    | text key => exact ⟨hopened, by simp [push]⟩
    | _ => exact hfailed .malformed (by decide)
  | colon fields key around =>
    cases token with
    | colon => exact ⟨hopened, by simp [push]⟩
    | _ => exact hfailed .malformed (by decide)
  | afterField fields around =>
    cases token with
    | comma => exact ⟨hopened, by simp [push]⟩
    | closeRecord => exact bounded_complete _ _ _ (Nat.le_sub_of_add_le hopened)
    | _ => exact hfailed .malformed (by decide)
  | done v => cases token <;> exact hfailed .malformed (by decide)
  | failed error => exact hfailed error fun herror => hreader (herror ▸ rfl)

/-- Along tokens a reader fails for its depth only if they open as much as the limit. -/
theorem depthLimit_le_deepest (tokens : List Token) (reader : Reader) (depth : Nat)
    (h : reader.Bounded depth) (hdeep : tokens.foldl push reader = .failed .tooDeep) :
    depthLimit ≤ deepest depth tokens := by
  induction tokens generalizing reader depth with
  | nil => exact h.failed hdeep
  | cons token others ih =>
    by_cases hreader : reader = .failed .tooDeep
    · exact Nat.le_trans (h.failed hreader) (Nat.le_max_left _ _)
    · have hothers := ih _ _ (bounded_push reader token depth h hreader) hdeep
      exact Nat.le_trans hothers (Nat.le_max_right _ _)

/-- Behind one list that is open, every further one is opened as long as it is not too deep. -/
theorem foldl_push_openLists (n depth : Nat) (hdepth : depth + 1 < depthLimit) :
    (List.replicate n Token.openList).foldl push
        (.firstItem (List.replicate depth (.list []))) =
      if depthLimit ≤ depth + n + 1 then .failed .tooDeep
      else .firstItem (List.replicate (depth + n) (.list [])) := by
  induction n generalizing depth with
  | zero =>
    rw [if_neg (by omega)]
    rfl
  | succ n ih =>
    have hpush : push (.firstItem (List.replicate depth (.list []))) .openList =
        descend (List.replicate (depth + 1) (.list []))
          (.firstItem (List.replicate (depth + 1) (.list []))) := rfl
    rw [List.replicate_succ, List.foldl_cons, hpush, descend, List.length_replicate]
    by_cases hnext : depthLimit ≤ depth + 1 + 1
    · rw [if_pos hnext, if_pos (by omega)]
      exact foldl_push_failed .tooDeep _
    · rw [if_neg hnext, ih (depth + 1) (by omega)]
      have hsum : depth + 1 + n = depth + (n + 1) := by omega
      rw [hsum]

end Reader

theorem read_brackets (n : Nat) (rest : Text) (hn : depthLimit ≤ n) :
    read (List.replicate n '[' ++ rest) = .error .tooDeep := by
  obtain ⟨m, rfl⟩ : ∃ m, n = m + 1 := ⟨n - 1, by unfold depthLimit at hn; omega⟩
  have hfirst : Reader.push (.value []) .openList = .firstItem (List.replicate 0 (.list [])) := rfl
  rw [read, tokens_brackets, List.replicate_succ, List.cons_append, List.foldl_cons, hfirst,
    List.foldl_append, Reader.foldl_push_openLists m 0 (by decide), if_pos (by omega),
    Reader.foldl_push_failed]
  rfl

/-- A text is refused for its nesting only if it nests as deep as the limit. -/
theorem depthLimit_le_nesting (text : Text) (h : read text = .error .tooDeep) :
    depthLimit ≤ nesting text := by
  apply Reader.depthLimit_le_deepest (tokens text) (.value []) 0 ⟨Nat.le_refl _, by simp⟩
  rw [read] at h
  cases hreader : (tokens text).foldl Reader.push (.value []) with
  | failed error =>
    rw [hreader] at h
    obtain rfl : error = .tooDeep := Except.error.inj h
    rfl
  | done v =>
    rw [hreader] at h
    cases h
  | value _ | firstItem _ | afterItem _ _ | firstKey _ | nextKey _ _ | colon _ _ _
  | afterField _ _ =>
    rw [hreader] at h
    cases h

end Quarry.Json
