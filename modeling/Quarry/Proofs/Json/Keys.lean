import Quarry.Json.Reader
import Quarry.Proofs.Json.Address
import Quarry.Proofs.Json.Reading

/-! The keys of the records in a value. A value that has been read has no key twice in one record: a
field that comes again takes the place of the one before. -/
namespace Quarry.Json

namespace Value

/-- All records in a value, the value itself among them, have fields of one kind. -/
def EachRecord (holds : Fields → Prop) (value : Value) : Prop :=
  ∀ address fields, value.at? address = some (.record fields) → holds fields

/-- No key stands twice in one record. -/
def DistinctKeys (value : Value) : Prop :=
  value.EachRecord fun fields => (fields.map Prod.fst).Nodup

variable (holds : Fields → Prop)

theorem eachRecord_iff (value : Value) : value.EachRecord holds ↔
    (∀ fields, value = .record fields → holds fields) ∧
      ∀ child ∈ value.children, child.EachRecord holds := by
  constructor
  · intro h
    refine ⟨fun fields hfields => h [] fields (by rw [hfields, at?_nil]), ?_⟩
    intro child hchild address fields hat
    obtain ⟨place, hplace⟩ := List.mem_iff_getElem?.1 hchild
    exact h (place :: address) fields ((at?_cons hplace address).trans hat)
  · rintro ⟨hvalue, hchildren⟩ address fields hat
    cases address with
    | nil => exact hvalue fields (Option.some.inj hat)
    | cons place rest =>
      obtain ⟨child, hplace, hrest⟩ := Option.bind_eq_some_iff.1 hat
      exact hchildren child (List.mem_of_getElem? hplace) rest fields hrest

theorem eachRecord_leaf (value : Value) (h : value.isContainer = false) :
    value.EachRecord holds := by
  rw [eachRecord_iff, children_leaf value h]
  refine ⟨?_, by simp⟩
  rintro fields rfl
  cases h

theorem eachRecord_list (items : List Value) : (list items).EachRecord holds ↔
    ∀ item ∈ items, item.EachRecord holds := by
  rw [eachRecord_iff, children]
  simp

theorem eachRecord_record (fields : Fields) : (record fields).EachRecord holds ↔
    holds fields ∧ ∀ field ∈ fields, field.2.EachRecord holds := by
  rw [eachRecord_iff, children, List.forall_mem_map]
  simp

theorem distinctKeys_leaf (value : Value) (h : value.isContainer = false) : value.DistinctKeys :=
  eachRecord_leaf _ value h

theorem distinctKeys_list (items : List Value) :
    (list items).DistinctKeys ↔ ∀ item ∈ items, item.DistinctKeys :=
  eachRecord_list _ items

theorem distinctKeys_record (fields : Fields) : (record fields).DistinctKeys ↔
    (fields.map Prod.fst).Nodup ∧ ∀ field ∈ fields, field.2.DistinctKeys :=
  eachRecord_record _ fields

end Value

/-- Nothing comes to the fields but the one that is put among them. -/
theorem mem_put (key : Text) (value : Value) (fields : Fields) (field : Text × Value)
    (h : field ∈ Fields.put key value fields) : field = (key, value) ∨ field ∈ fields := by
  induction fields with
  | nil => exact Or.inl (List.mem_singleton.1 h)
  | cons first others ih =>
    obtain ⟨other, found⟩ := first
    rw [Fields.put] at h
    split at h
    · exact (List.mem_cons.1 h).imp id (List.mem_cons_of_mem _)
    · rcases List.mem_cons.1 h with rfl | h
      · exact Or.inr List.mem_cons_self
      · exact (ih h).imp id (List.mem_cons_of_mem _)

theorem keys_put (key : Text) (value : Value) (fields : Fields) :
    (Fields.put key value fields).map Prod.fst =
      if key ∈ fields.map Prod.fst then fields.map Prod.fst else fields.map Prod.fst ++ [key] := by
  induction fields with
  | nil => rfl
  | cons first others ih =>
    obtain ⟨other, found⟩ := first
    rw [Fields.put]
    by_cases hkey : other = key
    · simp [hkey]
    · rw [if_neg hkey, List.map_cons, ih]
      have hne : key ≠ other := fun h => hkey h.symm
      by_cases hmem : key ∈ others.map Prod.fst <;> simp_all

theorem distinctKeys_put (key : Text) (value : Value) (fields : Fields)
    (hvalue : value.DistinctKeys) (hfields : (Value.record fields).DistinctKeys) :
    (Value.record (Fields.put key value fields)).DistinctKeys := by
  rw [Value.distinctKeys_record] at hfields ⊢
  obtain ⟨hkeys, hvalues⟩ := hfields
  constructor
  · -- A key that is there already stays where it is, and a new one comes last.
    rw [keys_put]
    split
    · exact hkeys
    · rename_i hnew
      exact List.nodup_append.2 ⟨hkeys, List.nodup_singleton key, fun first hfirst second hsecond => by
        rw [List.mem_singleton.1 hsecond]
        rintro rfl
        exact hnew hfirst⟩
  · intro field hfield
    rcases mem_put key value fields field hfield with rfl | hfield
    · exact hvalue
    · exact hvalues field hfield

/-- A token that is no list or record by itself. -/
def Token.IsFlat (token : Token) : Prop := ∀ value, token = .atom value → value.isContainer = false

section Tokens

theorem isContainer_of_unsigned (negative : Bool) (text : Text) (value : Value)
    (h : unsigned? negative text = some value) : value.isContainer = false := by
  unfold unsigned? at h
  dsimp only at h
  split at h
  · cases h
  split at h
  · split at h
    · obtain rfl := Option.some.inj h
      rfl
    · cases h
  · split at h
    · cases h
    · obtain ⟨_, -, rfl⟩ := Option.map_eq_some_iff.1 h
      rfl
  · obtain ⟨_, -, rfl⟩ := Option.map_eq_some_iff.1 h
    rfl

theorem isContainer_of_number (word : Text) (value : Value) (h : number? word = some value) :
    value.isContainer = false := by
  unfold number? at h
  split at h
  · exact isContainer_of_unsigned true _ value h
  · exact isContainer_of_unsigned false _ value h

theorem isContainer_of_literal (word : Text) (value : Value) (h : literals.lookup word = some value) :
    value.isContainer = false := by
  obtain ⟨before, after, hliterals, -⟩ := List.lookup_eq_some_iff.1 h
  have hmem : (word, value) ∈ literals := by
    rw [hliterals]
    simp
  have hall : ∀ literal ∈ literals, literal.2.isContainer = false := by decide
  exact hall _ hmem

theorem isFlat_ofWord (word : Text) : (Token.ofWord word).IsFlat := by
  intro value hvalue
  unfold Token.ofWord at hvalue
  split at hvalue
  · rename_i found hfound
    obtain rfl : found = value := by simpa using hvalue
    rcases Option.or_eq_some_iff.1 hfound with hliteral | ⟨-, hnumber⟩
    · exact isContainer_of_literal word found hliteral
    · exact isContainer_of_number word found hnumber
  · split at hvalue <;> cases hvalue

theorem isFlat_ofInside (inside : Text) : (Token.ofInside inside).IsFlat := by
  intro value hvalue
  unfold Token.ofInside at hvalue
  split at hvalue <;> cases hvalue

theorem isFlat_mark (c : Char) (token : Token) (h : mark? c = some token) : token.IsFlat := by
  rintro value rfl
  unfold mark? at h
  split at h <;> cases h

theorem isFlat_begin (tokens : List Token) (c : Char) (h : ∀ token ∈ tokens, token.IsFlat) :
    ∀ token ∈ (Lexer.begin tokens c).tokens, token.IsFlat := by
  unfold Lexer.begin
  split
  · exact h
  split
  · exact h
  split
  · rename_i token hmark
    exact List.forall_mem_cons.2 ⟨isFlat_mark c token hmark, h⟩
  · exact h

theorem isFlat_push (lexer : Lexer) (c : Char) (h : ∀ token ∈ lexer.tokens, token.IsFlat) :
    ∀ token ∈ (lexer.push c).tokens, token.IsFlat := by
  unfold Lexer.push
  split
  · exact isFlat_begin lexer.tokens c h
  · rename_i read _
    split
    · exact isFlat_begin _ c (List.forall_mem_cons.2 ⟨isFlat_ofWord read.reverse, h⟩)
    · exact h
  · rename_i read _
    split
    · exact List.forall_mem_cons.2 ⟨isFlat_ofInside read.reverse, h⟩
    · split
      · exact h
      · exact h
  · exact h

theorem isFlat_finish (lexer : Lexer) (h : ∀ token ∈ lexer.tokens, token.IsFlat) :
    ∀ token ∈ lexer.finish, token.IsFlat := by
  have hmalformed : Token.malformed.IsFlat := fun value hvalue => by cases hvalue
  unfold Lexer.finish
  split
  · exact h
  · rename_i read _
    exact List.forall_mem_cons.2 ⟨isFlat_ofWord read.reverse, h⟩
  · exact List.forall_mem_cons.2 ⟨hmalformed, h⟩
  · exact List.forall_mem_cons.2 ⟨hmalformed, h⟩

theorem isFlat_of_mem_tokens (text : Text) : ∀ token ∈ tokens text, token.IsFlat := by
  have hfold : ∀ lexer : Lexer, (∀ token ∈ lexer.tokens, token.IsFlat) →
      ∀ token ∈ (text.foldl Lexer.push lexer).tokens, token.IsFlat := by
    induction text with
    | nil => exact fun lexer h => h
    | cons c rest ih => exact fun lexer h => ih (lexer.push c) (isFlat_push lexer c h)
  intro token htoken
  exact isFlat_finish _ (hfold ⟨[], .between⟩ (by simp)) token (List.mem_reverse.1 htoken)

end Tokens

/-- What is complete of an open list or record has no key twice. -/
def Frame.DistinctKeys : Frame → Prop
  | .list items => (Value.list items).DistinctKeys
  | .record fields _ => (Value.record fields).DistinctKeys

namespace Reader

/-- All that the reader has read so far has no key twice. -/
def DistinctKeys : Reader → Prop
  | .value around | .firstItem around | .firstKey around => ∀ frame ∈ around, frame.DistinctKeys
  | .afterItem items around =>
    (Value.list items).DistinctKeys ∧ ∀ frame ∈ around, frame.DistinctKeys
  | .nextKey fields around | .colon fields _ around | .afterField fields around =>
    (Value.record fields).DistinctKeys ∧ ∀ frame ∈ around, frame.DistinctKeys
  | .done v => v.DistinctKeys
  | .failed _ => True

variable (around : List Frame)

theorem complete_distinctKeys (value : Value) (hvalue : value.DistinctKeys)
    (h : ∀ frame ∈ around, frame.DistinctKeys) : (complete value around).DistinctKeys := by
  cases around with
  | nil => exact hvalue
  | cons frame around =>
    obtain ⟨hframe, haround⟩ := List.forall_mem_cons.1 h
    cases frame with
    | list items =>
      refine ⟨?_, haround⟩
      rw [Value.distinctKeys_list]
      exact List.forall_mem_cons.2 ⟨hvalue, (Value.distinctKeys_list items).1 hframe⟩
    | record fields key => exact ⟨distinctKeys_put key value fields hvalue hframe, haround⟩

theorem descend_distinctKeys (opened : Reader) (h : opened.DistinctKeys) :
    (descend around opened).DistinctKeys := by
  unfold descend
  split
  · trivial
  · exact h

theorem takeValue_distinctKeys (token : Token) (htoken : token.IsFlat)
    (h : ∀ frame ∈ around, frame.DistinctKeys) : (takeValue around token).DistinctKeys := by
  cases token with
  | openList => exact descend_distinctKeys around (.firstItem around) h
  | openRecord => exact descend_distinctKeys around (.firstKey around) h
  | text t => exact complete_distinctKeys around _ (Value.distinctKeys_leaf _ rfl) h
  | atom value =>
    exact complete_distinctKeys around value (Value.distinctKeys_leaf _ (htoken value rfl)) h
  | _ => trivial

theorem push_distinctKeys (reader : Reader) (token : Token) (htoken : token.IsFlat)
    (h : reader.DistinctKeys) : (reader.push token).DistinctKeys := by
  have hempty : (Value.list []).DistinctKeys := by simp [Value.distinctKeys_list]
  have hbare : (Value.record []).DistinctKeys := by simp [Value.distinctKeys_record]
  -- A token that does not fit ends in a failure, which holds no value.
  cases reader with
  | value around => exact takeValue_distinctKeys around token htoken h
  | firstItem around =>
    have hitem := takeValue_distinctKeys (.list [] :: around) token htoken
      (List.forall_mem_cons.2 ⟨hempty, h⟩)
    cases token with
    | closeList => exact complete_distinctKeys around _ hempty h
    | _ => exact hitem
  | afterItem items around =>
    cases token with
    | comma => exact List.forall_mem_cons.2 h
    | closeList =>
      refine complete_distinctKeys around _ ?_ h.2
      obtain ⟨hitems, -⟩ := h
      rw [Value.distinctKeys_list] at hitems ⊢
      exact fun item hitem => hitems item (List.mem_reverse.1 hitem)
    | _ => trivial
  | firstKey around =>
    cases token with
    | closeRecord => exact complete_distinctKeys around _ hbare h
    | text key => exact ⟨hbare, h⟩
    | _ => trivial
  | nextKey fields around =>
    cases token with
    | text key => exact h
    | _ => trivial
  | colon fields key around =>
    cases token with
    | colon => exact List.forall_mem_cons.2 h
    | _ => trivial
  | afterField fields around =>
    cases token with
    | comma => exact h
    | closeRecord => exact complete_distinctKeys around _ h.1 h.2
    | _ => trivial
  | done v => cases token <;> trivial
  | failed error => cases token <;> trivial

theorem foldl_push_distinctKeys (tokens : List Token) (reader : Reader)
    (htokens : ∀ token ∈ tokens, token.IsFlat) (h : reader.DistinctKeys) :
    (tokens.foldl push reader).DistinctKeys := by
  induction tokens generalizing reader with
  | nil => exact h
  | cons token others ih =>
    obtain ⟨htoken, hothers⟩ := List.forall_mem_cons.1 htokens
    exact ih (reader.push token) hothers (push_distinctKeys reader token htoken h)

end Reader

/-- No record of a value that has been read has a key twice. -/
theorem distinctKeys_of_read (text : Text) (value : Value) (h : read text = .ok value) :
    value.DistinctKeys := by
  have hdone := Reader.foldl_push_distinctKeys (tokens text) (.value []) (isFlat_of_mem_tokens text)
    (by simp [Reader.DistinctKeys])
  rwa [foldl_of_read text value h] at hdone

end Quarry.Json
