import Mathlib.Data.List.Forall2
import Quarry.Proofs.Json.Escaped
import Quarry.Proofs.Json.Reading
import Quarry.Proofs.Text.Pieces

/-! Values as they are written. However a value of texts, lists and records is laid out, it is written
in the same tokens, and reading them gives the value back. -/
namespace Quarry.Json

/-- A text is made up of tokens, with nothing under way at its end. -/
def Spells (text : Text) (found : List Token) : Prop := scan .between text = ⟨found.reverse, .between⟩

namespace Spells

theorem nil : Spells [] [] := rfl

theorem append {before after : Text} {first second : List Token} (hbefore : Spells before first)
    (hafter : Spells after second) : Spells (before ++ after) (first ++ second) := by
  have hscan : scan .between (before ++ after) =
      after.foldl Lexer.push (scan .between before) := by
    rw [scan, List.foldl_append, ← scan]
  rw [Spells, hscan, hbefore, foldl_push_tokens, hafter, List.reverse_append]

theorem blank (c : Char) (h : isBlank c = true) : Spells [c] [] := by
  rw [Spells, scan, List.foldl_cons, Lexer.push, Lexer.begin, if_pos h]
  rfl

theorem blanks (text : Text) (h : ∀ c ∈ text, isBlank c = true) : Spells text [] := by
  induction text with
  | nil => exact nil
  | cons c text ih =>
    obtain ⟨hc, hothers⟩ := List.forall_mem_cons.1 h
    exact (blank c hc).append (ih hothers)

theorem mark (c : Char) (token : Token) (h : mark? c = some token) : Spells [c] [token] := by
  have hends : isBlank c = false ∧ c ≠ '"' := by
    constructor
    · by_contra hblank
      simp only [Bool.not_eq_false, isBlank, Bool.or_eq_true, decide_eq_true_eq] at hblank
      rcases hblank with ((rfl | rfl) | rfl) | rfl <;> cases h
    · rintro rfl
      cases h
  rw [Spells, scan, List.foldl_cons, Lexer.push, Lexer.begin, if_neg (by simp [hends.1]),
    if_neg hends.2, h]
  rfl

theorem text (t : Text) : Spells (writeText t) [.text t] := scan_writeText t

theorem tokens_eq {text : Text} {found : List Token} (h : Spells text found) : tokens text = found := by
  have hscan : tokens text = (scan .between text).finish.reverse := rfl
  rw [hscan, h]
  exact List.reverse_reverse found

variable {pieces : List Text} {founds : List (List Token)} (h : List.Forall₂ Spells pieces founds)

include h

theorem joined (separator : Text) (hseparator : Spells separator [.comma]) :
    Spells (Text.joined separator pieces) (List.intercalate [.comma] founds) := by
  induction h with
  | nil => exact nil
  | @cons piece found pieces founds hpiece h ih =>
    by_cases hnone : pieces = []
    · subst hnone
      cases h
      rw [Text.joined, List.intercalate_singleton, List.intercalate_singleton]
      exact hpiece
    · have hsome : founds ≠ [] := by
        rintro rfl
        cases h
        exact hnone rfl
      rw [Text.joined_cons _ _ _ hnone, List.intercalate_cons_of_ne_nil hsome]
      exact (hpiece.append hseparator).append ih

theorem bracket (style : Style) (depth : Nat) (left right : Char) (opening closing : Token)
    (hleft : mark? left = some opening) (hright : mark? right = some closing) :
    Spells (style.bracket depth left right pieces)
      (opening :: List.intercalate [.comma] founds ++ [closing]) := by
  have hbreak (depth : Nat) : Spells (style.lineBreak depth) [] := by
    apply blanks
    intro c hc
    cases style with
    | compact => cases hc
    | indented width =>
      rcases List.mem_cons.1 hc with rfl | hc
      · rfl
      · rw [List.eq_of_mem_replicate hc]
        rfl
  have hseparator (depth : Nat) : Spells (style.separator depth) [.comma] := by
    have hcomma := mark ',' .comma rfl
    cases style with
    | compact => exact hcomma.append (blank ' ' rfl)
    | indented width => exact hcomma.append (hbreak depth)
  by_cases hnone : pieces = []
  · subst hnone
    cases h
    exact (mark left opening hleft).append (mark right closing hright)
  · have hempty : ¬pieces.isEmpty = true := by rwa [List.isEmpty_iff]
    have hinside := ((hbreak (depth + 1)).append (joined h _ (hseparator (depth + 1)))).append
      (hbreak depth)
    rw [List.nil_append, List.append_nil] at hinside
    rw [Style.bracket, if_neg hempty]
    exact ((mark left opening hleft).append hinside).append (mark right closing hright)

end Spells

mutual

/-- The tokens that a value is written in. -/
def valueTokens : Value → List Token
  | .text t => [.text t]
  | .list items => .openList :: List.intercalate [.comma] (itemTokens items) ++ [.closeList]
  | .record fields => .openRecord :: List.intercalate [.comma] (fieldTokens fields) ++ [.closeRecord]
  | value => [.atom value]

def itemTokens : List Value → List (List Token)
  | [] => []
  | item :: others => valueTokens item :: itemTokens others

def fieldTokens : List (Text × Value) → List (List Token)
  | [] => []
  | (key, value) :: others => (.text key :: .colon :: valueTokens value) :: fieldTokens others

end

/-- A value of texts, lists and records alone, which nest to a height at most. No key stands twice in
one record. -/
inductive Value.Verbal : Nat → Value → Prop where
  | text (height : Nat) (t : Text) : Verbal height (.text t)
  | list (height : Nat) (items : List Value) (h : ∀ item ∈ items, Verbal height item) :
    Verbal (height + 1) (.list items)
  | record (height : Nat) (fields : Fields) (hkeys : (fields.map Prod.fst).Nodup)
    (h : ∀ field ∈ fields, Verbal height field.2) : Verbal (height + 1) (.record fields)

section

variable (style : Style)

theorem spells_writeItems (depth : Nat) (items : List Value)
    (h : ∀ item ∈ items, Spells (write style depth item) (valueTokens item)) :
    List.Forall₂ Spells (writeItems style depth items) (itemTokens items) := by
  induction items with
  | nil => exact .nil
  | cons item others ih =>
    obtain ⟨hitem, hothers⟩ := List.forall_mem_cons.1 h
    exact .cons hitem (ih hothers)

theorem spells_writeFields (depth : Nat) (fields : Fields)
    (h : ∀ field ∈ fields, Spells (write style depth field.2) (valueTokens field.2)) :
    List.Forall₂ Spells (writeFields style depth fields) (fieldTokens fields) := by
  induction fields with
  | nil => exact .nil
  | cons field others ih =>
    obtain ⟨key, value⟩ := field
    obtain ⟨hfield, hothers⟩ := List.forall_mem_cons.1 h
    refine .cons ?_ (ih hothers)
    exact ((Spells.text key).append ((Spells.mark ':' .colon rfl).append
      (Spells.blank ' ' rfl))).append hfield

/-- Every layout of a value is made up of the same tokens. -/
theorem spells_write (height depth : Nat) (value : Value) (h : value.Verbal height) :
    Spells (write style depth value) (valueTokens value) := by
  induction h generalizing depth with
  | text height t =>
    rw [write, valueTokens]
    exact Spells.text t
  | list height items h ih =>
    rw [write, valueTokens]
    exact Spells.bracket (spells_writeItems style _ items fun item hitem => ih item hitem _)
      style depth '[' ']' _ _ rfl rfl
  | record height fields hkeys h ih =>
    rw [write, valueTokens]
    exact Spells.bracket (spells_writeFields style _ fields fun field hfield => ih field hfield _)
      style depth '\x7b' '\x7d' _ _ rfl rfl

end

theorem itemTokens_eq (items : List Value) : itemTokens items = items.map valueTokens := by
  induction items with
  | nil => rfl
  | cons item others ih => rw [itemTokens, ih, List.map_cons]

theorem fieldTokens_eq (fields : Fields) : fieldTokens fields =
    fields.map fun field => .text field.1 :: .colon :: valueTokens field.2 := by
  induction fields with
  | nil => rfl
  | cons field others ih => rw [fieldTokens, ih, List.map_cons]

theorem put_of_new (key : Text) (value : Value) (fields : Fields)
    (hkey : key ∉ fields.map Prod.fst) : Fields.put key value fields = fields ++ [(key, value)] := by
  induction fields with
  | nil => rfl
  | cons first others ih =>
    obtain ⟨other, found⟩ := first
    rw [List.map_cons, List.mem_cons, not_or] at hkey
    rw [Fields.put, if_neg (Ne.symm hkey.1), ih hkey.2, List.cons_append]

/-- Fields whose keys are new and differ come behind those that are there. -/
theorem foldl_put (fields read : Fields) (h : ((read ++ fields).map Prod.fst).Nodup) :
    fields.foldl (fun read field => Fields.put field.1 field.2 read) read = read ++ fields := by
  induction fields generalizing read with
  | nil => simp
  | cons field others ih =>
    have hkey : field.1 ∉ read.map Prod.fst := by
      rw [List.map_append, List.nodup_append] at h
      exact fun hmem => h.2.2 _ hmem _ (by simp) rfl
    have hothers : read ++ field :: others = read ++ [field] ++ others := by simp
    rw [hothers] at h ⊢
    rw [List.foldl_cons, put_of_new field.1 field.2 read hkey]
    exact ih _ h

namespace Reader

/-- What stands between commas is read piece by piece. -/
theorem foldl_push_intercalate {Piece State : Type} (ready after : State → Reader)
    (add : State → Piece → State) (found : Piece → List Token)
    (hcomma : ∀ state, push (after state) .comma = ready state) (pieces : List Piece)
    (hpieces : pieces ≠ [])
    (h : ∀ piece ∈ pieces, ∀ state,
      (found piece).foldl push (ready state) = after (add state piece)) (state : State) :
    (List.intercalate [.comma] (pieces.map found)).foldl push (ready state) =
      after (pieces.foldl add state) := by
  induction pieces generalizing state with
  | nil => exact absurd rfl hpieces
  | cons piece pieces ih =>
    obtain ⟨hpiece, hothers⟩ := List.forall_mem_cons.1 h
    by_cases hnone : pieces = []
    · subst hnone
      rw [List.map_singleton, List.intercalate_singleton]
      exact hpiece state
    · rw [List.map_cons, List.intercalate_cons_of_ne_nil (by simpa using hnone), List.foldl_append,
        List.foldl_append, hpiece state, List.foldl_cons, List.foldl_nil, hcomma, ih hnone hothers,
        List.foldl_cons]

section

variable (around : List Frame)

/-- The first item of a list is read as the other ones are. -/
theorem foldl_push_firstItem (found : List Token) (items : List Value)
    (h : found.foldl push (.value (.list [] :: around)) = .afterItem items around) :
    found.foldl push (.firstItem around) = .afterItem items around := by
  cases found with
  | nil => cases h
  | cons token others =>
    cases token with
    | closeList =>
      rw [List.foldl_cons, push, takeValue, foldl_push_failed] at h
      · cases h
      all_goals simp
    | _ => exact h

/-- The first key of a record is read as the other ones are. -/
theorem foldl_push_firstKey (found : List Token) (fields : Fields)
    (h : found.foldl push (.nextKey [] around) = .afterField fields around) :
    found.foldl push (.firstKey around) = .afterField fields around := by
  cases found with
  | nil => cases h
  | cons token others =>
    cases token with
    | closeRecord =>
      rw [List.foldl_cons, push, foldl_push_failed] at h
      · cases h
      all_goals simp
    | _ => exact h

theorem foldl_push_items (items : List Value) (hitems : items ≠ [])
    (h : ∀ item ∈ items, ∀ read, (valueTokens item).foldl push (.value (.list read :: around)) =
      complete item (.list read :: around)) :
    (List.intercalate [.comma] (itemTokens items)).foldl push (.firstItem around) =
      .afterItem items.reverse around := by
  have hread := foldl_push_intercalate (fun read => .value (.list read :: around))
    (fun read => .afterItem read around) (fun read item => item :: read) valueTokens
    (fun _ => rfl) items hitems h []
  -- The reader keeps the items last first until the list is closed.
  have hreverse : items.foldl (fun read item => item :: read) [] = items.reverse := by simp
  rw [hreverse, ← itemTokens_eq] at hread
  exact foldl_push_firstItem around _ _ hread

theorem foldl_push_fields (fields : Fields) (hfields : fields ≠ [])
    (hkeys : (fields.map Prod.fst).Nodup)
    (h : ∀ field ∈ fields, ∀ read,
      (valueTokens field.2).foldl push (.value (.record read field.1 :: around)) =
        complete field.2 (.record read field.1 :: around)) :
    (List.intercalate [.comma] (fieldTokens fields)).foldl push (.firstKey around) =
      .afterField fields around := by
  have hread := foldl_push_intercalate (fun read => .nextKey read around)
    (fun read => .afterField read around)
    (fun read (field : Text × Value) => Fields.put field.1 field.2 read)
    (fun field => .text field.1 :: .colon :: valueTokens field.2)
    (fun _ => rfl) fields hfields h []
  rw [foldl_put fields [] hkeys, List.nil_append, ← fieldTokens_eq] at hread
  exact foldl_push_firstKey around _ _ hread

end

/-- The tokens of a value are read as this value, wherever one may stand that is not too deep. -/
theorem foldl_push_valueTokens (height : Nat) (value : Value) (h : value.Verbal height)
    (around : List Frame) (hdepth : around.length + height < depthLimit) :
    (valueTokens value).foldl push (.value around) = complete value around := by
  induction h generalizing around with
  | text height t =>
    rw [valueTokens]
    rfl
  | list height items h ih =>
    have hopen : push (.value around) .openList = .firstItem around := by
      rw [push, takeValue, descend, if_neg (by omega)]
    rw [valueTokens, List.cons_append, List.foldl_cons, hopen, List.foldl_append]
    by_cases hnone : items = []
    · subst hnone
      rfl
    · have hinside (read : List Value) : (Frame.list read :: around).length + height < depthLimit := by
        rw [List.length_cons]
        omega
      rw [foldl_push_items around items hnone fun item hitem read => ih item hitem _ (hinside read),
        List.foldl_cons, List.foldl_nil, push, List.reverse_reverse]
  | record height fields hkeys h ih =>
    have hopen : push (.value around) .openRecord = .firstKey around := by
      rw [push, takeValue, descend, if_neg (by omega)]
    rw [valueTokens, List.cons_append, List.foldl_cons, hopen, List.foldl_append]
    by_cases hnone : fields = []
    · subst hnone
      rfl
    · have hinside (read : Fields) (key : Text) :
          (Frame.record read key :: around).length + height < depthLimit := by
        rw [List.length_cons]
        omega
      rw [foldl_push_fields around fields hnone hkeys fun field hfield read =>
        ih field hfield _ (hinside read field.1)]
      rfl

end Reader

/-- A value is read back from a text that is made up of its tokens. -/
theorem read_of_spells (text : Text) (height : Nat) (value : Value)
    (htext : Spells text (valueTokens value)) (h : value.Verbal height)
    (hheight : height < depthLimit) : read text = .ok value := by
  have hdone := Reader.foldl_push_valueTokens height value h [] (by simpa using hheight)
  rw [read, htext.tokens_eq, hdone]
  rfl

/-- Both layouts of a value are read as this value, with or without a line feed behind it. -/
theorem read_render (style : Style) (height : Nat) (value : Value) (h : value.Verbal height)
    (hheight : height < depthLimit) : read (render style value) = .ok value ∧
      read (render style value ++ ['\n']) = .ok value := by
  have hspells : Spells (render style value) (valueTokens value) := spells_write style height 0 value h
  have hfeed := hspells.append (Spells.blank '\n' rfl)
  rw [List.append_nil] at hfeed
  exact ⟨read_of_spells _ height value hspells h hheight,
    read_of_spells _ height value hfeed h hheight⟩

end Quarry.Json
