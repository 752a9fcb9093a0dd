import Quarry.Proofs.Cli.Reported
import Quarry.Proofs.Json.Written

/-! What is printed of a query. Whatever characters stand in it, this is JSON in both layouts, and is
read as the parts and the projections of the query. -/
namespace Quarry

open Json (Value)

namespace Query

theorem jsonTexts_verbal (height : Nat) (texts : List Text) :
    (jsonTexts texts).Verbal (height + 1) := by
  refine .list height _ fun item hitem => ?_
  obtain ⟨t, -, rfl⟩ := List.mem_map.1 hitem
  exact .text height t

theorem Filter.toJson_verbal (filter : Filter) : filter.toJson.Verbal 1 := by
  have hkeys : ["field".toList, "value".toList].Nodup := by decide
  refine .record 0 _ hkeys ?_
  simp only [List.forall_mem_cons, List.not_mem_nil, false_implies, implies_true, and_true]
  exact ⟨.text 0 _, .text 0 _⟩

end Query

namespace Cli

/-- The report of a query is made of texts, which stand at most in records in a list in a record. -/
theorem queryReport_verbal (query : Text) : (queryReport query).Verbal 3 := by
  have hkeys : ["semantic_terms".toList, "phrases".toList, "filters".toList, "exclude_terms".toList,
      "boolean_op".toList, "original_query".toList, "semantic_query".toList,
      "fts_query".toList].Nodup := by decide
  have hfilters (filters : List Query.Filter) :
      (Value.list (filters.map Query.Filter.toJson)).Verbal 2 := by
    refine .list 1 _ fun item hitem => ?_
    obtain ⟨filter, -, rfl⟩ := List.mem_map.1 hitem
    exact filter.toJson_verbal
  refine .record 2 _ hkeys ?_
  simp only [Query.Parsed.fields, List.cons_append, List.nil_append, List.forall_mem_cons,
    List.not_mem_nil, false_implies, implies_true, and_true]
  exact ⟨Query.jsonTexts_verbal 1 _, Query.jsonTexts_verbal 1 _, hfilters _,
    Query.jsonTexts_verbal 1 _, .text 2 _, .text 2 _, .text 2 _, .text 2 _⟩

section

variable (engines : Engines) (disk : Disk) (environment : Environment)
  (configuration : Configuration) (hconfiguration : environment.configuration = .ok configuration)
  (hlevel : configuration.logLevel ∉ reservedNames)

include hconfiguration hlevel

theorem run_eq_conclude (command : Command) : ∃ rank,
    command.run engines disk environment =
      conclude rank (command.text engines disk configuration) := by
  obtain ⟨rank, hrank⟩ := (rankOf_eq configuration.logLevel).2 hlevel
  refine ⟨rank, ?_⟩
  rw [Command.run, hconfiguration]
  dsimp only
  rw [hrank]
  rfl

/-- A query is printed in full, and nothing else is, if it is a text. -/
theorem run_parseQuery (query : RawText) (text : Text) (htext : query.text? = some text)
    (pretty : Bool) : (Command.parseQuery query pretty).run engines disk environment =
      .ok ⟨0, Json.render (queryStyle pretty) (queryReport text) ++ ['\n'], []⟩ := by
  obtain ⟨rank, hrun⟩ := run_eq_conclude engines disk environment configuration hconfiguration
    hlevel (.parseQuery query pretty)
  rw [hrun, Command.text, htext]
  rfl

theorem run_parseQuery_half (query : RawText) (hquery : query.text? = none) (pretty : Bool) :
    (Command.parseQuery query pretty).run engines disk environment = .error .unprintable := by
  obtain ⟨rank, hrun⟩ := run_eq_conclude engines disk environment configuration hconfiguration
    hlevel (.parseQuery query pretty)
  rw [hrun, Command.text, hquery]
  rfl

end

section

variable (options : OptionTable) (word : Text)

theorem ofName_ne_operand (name : Text) (value : Option Text) (text : Text) :
    Word.ofName name value ≠ .operand text := by
  unfold Word.ofName
  split
  · split
    · simp
    · simp
  · simp

/-- A word that is an operand stands for itself. -/
theorem ofText_eq_operand (text : Text) (h : Word.ofText options word = .operand text) :
    text = word := by
  unfold Word.ofText at h
  split at h
  · rename_i rest
    unfold Word.ofDashed at h
    dsimp only at h
    split at h
    · exact absurd h (ofName_ne_operand _ _ _)
    split at h
    · exact (Word.operand.inj h).symm
    split at h
    · exact absurd h (ofName_ne_operand _ _ _)
    -- No known name stands in the word, so it may be cut short, look like a number, or hold a space.
    split at h
    · exact absurd h (ofName_ne_operand _ _ _)
    · cases h
    split at h
    · cases h
    split at h
    · exact (Word.operand.inj h).symm
    · cases h
  · exact (Word.operand.inj h).symm

theorem ofText_of_isValueWord (h : isValueWord options word = true) :
    word ≠ doubleDash ∧ Word.ofText options word = .operand word := by
  rw [isValueWord] at h
  split at h
  · cases h
  · rename_i hdash
    split at h
    · rename_i text htext
      refine ⟨hdash, ?_⟩
      rw [htext, ofText_eq_operand options word text htext]
    · cases h

/-- The operand is taken where there is none yet and no double dash follows. -/
theorem readWords_operand (h : isValueWord options word = true) (arguments : Arguments)
    (hoperand : arguments.operand = none) (rest : List Text)
    (hrest : rest.head? ≠ some doubleDash) :
    readWords options arguments (word :: rest) =
      readWords options { arguments with operand := some word } rest := by
  obtain ⟨hdash, hword⟩ := ofText_of_isValueWord options word h
  rw [readWords, if_neg hdash, hword]
  dsimp only
  rw [hoperand, if_neg (by simp), if_neg hrest]

theorem readArguments_of_readWords (words : List Text) (operand : Text) (arguments : Arguments)
    (hclear : ∀ word ∈ words.takeWhile (· != doubleDash), isAmbiguous options word = false)
    (hwords : readWords options ⟨none, [], [], false⟩ words = .ok arguments)
    (hoperand : arguments.operand = some operand) (hexcess : arguments.excess = false) :
    readArguments options words = .ok (operand, arguments) := by
  have hnone : ¬(words.takeWhile (· != doubleDash)).any (isAmbiguous options) = true := by
    rw [Bool.not_eq_true, List.any_eq_false]
    exact fun word hword => by rw [hclear word hword]; simp
  rw [readArguments, if_neg hnone, hwords]
  simp [bind, Except.bind, hoperand, hexcess]

end

theorem readWords_pretty (arguments : Arguments) (rest : List Text) :
    readWords queryOptions arguments (prettyOption :: rest) =
      readWords queryOptions { arguments with flags := prettyOption :: arguments.flags } rest := by
  have hword : Word.ofText queryOptions prettyOption = .option prettyOption none := by rfl
  rw [readWords, if_neg (by decide), hword]
  dsimp only
  rw [if_pos (by decide)]

theorem read_parseQuery (words : List Text) (query : Text) (arguments : Arguments)
    (h : readArguments queryOptions words = .ok (query, arguments)) :
    Command.read ("parse-query".toList :: words) =
      .ok (.parseQuery (.ofText query) (arguments.flags.contains prettyOption)) := by
  have hname : Word.ofText [] "parse-query".toList = .operand "parse-query".toList := by rfl
  rw [Command.read, if_neg (by decide), hname]
  dsimp only
  rw [readCommand, if_neg (by decide), if_neg (by decide), if_pos rfl, h]
  rfl

theorem isAmbiguous_of_isValueWord (options : OptionTable) (word : Text)
    (h : isValueWord options word = true) : isAmbiguous options word = false := by
  rw [isAmbiguous, (ofText_of_isValueWord options word h).2]

/-- Every query can be asked for behind a double dash. -/
theorem read_behind_dash (query : Text) :
    Command.read ["parse-query".toList, doubleDash, query] =
        .ok (.parseQuery (.ofText query) false) ∧
      Command.read ["parse-query".toList, prettyOption, doubleDash, query] =
        .ok (.parseQuery (.ofText query) true) := by
  have hdash (arguments : Arguments) (hoperand : arguments.operand = none) :
      readWords queryOptions arguments [doubleDash, query] =
        .ok { arguments with operand := some query } := by
    rw [readWords, if_pos rfl, Arguments.takeOperands]
    exact hoperand
  have hpretty := (readWords_pretty ⟨none, [], [], false⟩ _).trans (hdash _ rfl)
  constructor
  · exact read_parseQuery _ query _
      (readArguments_of_readWords _ _ query _ (by simp) (hdash _ rfl) rfl rfl)
  · have hfront : [prettyOption, doubleDash, query].takeWhile (· != doubleDash) = [prettyOption] := rfl
    exact read_parseQuery _ query _ (readArguments_of_readWords _ _ query _
      (by rw [hfront]; exact List.forall_mem_singleton.2 (by decide)) hpretty rfl rfl)

/-- A query that is taken as an operand can stand alone, in front of the option, or behind it. -/
theorem read_operand (query : Text) (h : isValueWord queryOptions query = true) :
    Command.read ["parse-query".toList, query] = .ok (.parseQuery (.ofText query) false) ∧
      Command.read ["parse-query".toList, query, prettyOption] =
        .ok (.parseQuery (.ofText query) true) ∧
      Command.read ["parse-query".toList, prettyOption, query] =
        .ok (.parseQuery (.ofText query) true) := by
  have hpretty : isAmbiguous queryOptions prettyOption = false := by decide
  -- None of the words is ambiguous, in whichever order they come.
  have hclear (words : List Text) (hwords : ∀ word ∈ words, word = query ∨ word = prettyOption) :
      ∀ word ∈ words.takeWhile (· != doubleDash), isAmbiguous queryOptions word = false := by
    intro word hword
    rcases hwords word ((List.takeWhile_sublist _).mem hword) with rfl | rfl
    · exact isAmbiguous_of_isValueWord queryOptions _ h
    · exact hpretty
  have hquery (arguments : Arguments) (hnone : arguments.operand = none) (rest : List Text)
      (hrest : rest.head? ≠ some doubleDash) :=
    readWords_operand queryOptions query h arguments hnone rest hrest
  refine ⟨?_, ?_, ?_⟩
  · have hwords := hquery ⟨none, [], [], false⟩ rfl [] (by decide)
    exact read_parseQuery _ query _
      (readArguments_of_readWords _ _ query _ (hclear _ (by simp)) hwords rfl rfl)
  · have hwords := (hquery ⟨none, [], [], false⟩ rfl [prettyOption] (by decide)).trans
      (readWords_pretty _ [])
    exact read_parseQuery _ query _
      (readArguments_of_readWords _ _ query _ (hclear _ (by simp)) hwords rfl rfl)
  · have hwords := (readWords_pretty ⟨none, [], [], false⟩ [query]).trans
      (hquery _ rfl [] (by decide))
    exact read_parseQuery _ query _
      (readArguments_of_readWords _ _ query _ (hclear _ (by simp)) hwords rfl rfl)

/-- In a valid environment every query that is a text is printed as one JSON document and a line feed,
in both layouts. What is printed is read as the parts of the query and its two projections, text by text,
and any such query can be asked for, as a word by itself where it is none of an option, and behind a
double dash else. -/
theorem parseQuery_decodes (engines : Engines) (disk : Disk) (environment : Environment)
    (configuration : Configuration) (hconfiguration : environment.configuration = .ok configuration)
    (hlevel : configuration.logLevel ∉ reservedNames) (query : RawText) (text : Text)
    (htext : query.text? = some text) :
    (∀ pretty, ∃ document,
      (Command.parseQuery query pretty).run engines disk environment =
          .ok ⟨0, document ++ ['\n'], []⟩ ∧
        ∀ printed ∈ [document, document ++ ['\n']], Json.read printed =
          .ok (.record ((Query.parse (some text)).fields ++
            [("semantic_query".toList, .text (Query.parse (some text)).semanticQuery),
              ("fts_query".toList, .text (Query.parse (some text)).keywordQuery)]))) ∧
    (isValueWord queryOptions text = true →
      Command.read ["parse-query".toList, text] = .ok (.parseQuery query false) ∧
        Command.read ["parse-query".toList, text, prettyOption] = .ok (.parseQuery query true) ∧
        Command.read ["parse-query".toList, prettyOption, text] = .ok (.parseQuery query true)) ∧
    Command.read ["parse-query".toList, doubleDash, text] = .ok (.parseQuery query false) ∧
    Command.read ["parse-query".toList, prettyOption, doubleDash, text] =
      .ok (.parseQuery query true) := by
  obtain rfl := RawText.eq_ofText query text htext
  refine ⟨fun pretty => ?_, read_operand text, read_behind_dash text⟩
  obtain ⟨hdocument, hline⟩ := Json.read_render (queryStyle pretty) 3 (queryReport text)
    (queryReport_verbal text) (by decide)
  refine ⟨_, run_parseQuery engines disk environment configuration hconfiguration hlevel _ text htext
    pretty, ?_⟩
  rw [List.forall_mem_cons, List.forall_mem_singleton]
  exact ⟨hdocument, hline⟩

theorem empty_logLevel : ∃ configuration, Environment.configuration [] = .ok configuration ∧
    configuration.logLevel ∉ reservedNames := by
  obtain ⟨configuration, hconfiguration, hname, -⟩ := empty_configuration
  refine ⟨configuration, hconfiguration, ?_⟩
  rw [hname]
  decide

/-- A phrase that ends in a backslash, and a control character that is excluded. -/
theorem parseQuery_decodes_control :
    let query : Text := ['"', 'x', '\\', '"', ' ', '-', Char.ofNat 1]
    ∃ configuration, Environment.configuration [] = .ok configuration ∧
      configuration.logLevel ∉ reservedNames ∧ (RawText.ofText query).text? = some query ∧
      isValueWord queryOptions query = true ∧ ∀ engines disk, ∃ document,
        (Command.parseQuery (.ofText query) true).run engines disk [] =
            .ok ⟨0, document ++ ['\n'], []⟩ ∧
          Json.read (document ++ ['\n']) = .ok (.record
            [("semantic_terms".toList, .list [.text ['x', '\\']]),
              ("phrases".toList, .list [.text ['x', '\\']]), ("filters".toList, .list []),
              ("exclude_terms".toList, .list [.text [Char.ofNat 1]]),
              ("boolean_op".toList, .text "AND".toList), ("original_query".toList, .text query),
              ("semantic_query".toList, .text ['x', '\\']),
              ("fts_query".toList, .text ['"', 'x', '\\', '"'])]) := by
  intro query
  obtain ⟨configuration, hconfiguration, hlevel⟩ := empty_logLevel
  have htext := RawText.text?_ofText query
  refine ⟨configuration, hconfiguration, hlevel, htext, by decide, fun engines disk => ?_⟩
  obtain ⟨hprinted, -⟩ := parseQuery_decodes engines disk [] configuration hconfiguration hlevel
    (.ofText query) query htext
  obtain ⟨document, hrun, hread⟩ := hprinted true
  refine ⟨document, hrun, (hread _ (by simp)).trans ?_⟩
  have hfields : (Query.parse (some query)).fields =
      [("semantic_terms".toList, .list [.text ['x', '\\']]),
        ("phrases".toList, .list [.text ['x', '\\']]), ("filters".toList, .list []),
        ("exclude_terms".toList, .list [.text [Char.ofNat 1]]),
        ("boolean_op".toList, .text "AND".toList), ("original_query".toList, .text query)] := by cbv
  have hsemantic : (Query.parse (some query)).semanticQuery = ['x', '\\'] := by cbv
  have hkeyword : (Query.parse (some query)).keywordQuery = ['"', 'x', '\\', '"'] := by cbv
  rw [hfields, hsemantic, hkeyword]
  rfl

/-- Where a size is no size, a query is not printed, and half of a surrogate pair is printed nowhere. -/
theorem parseQuery_unprinted :
    (Command.read ["parse-query".toList, ['x']] = .ok (.parseQuery (.ofText ['x']) false) ∧
      ∀ engines disk,
        (Command.parseQuery (.ofText ['x']) false).run engines disk
            [("MAX_JSON_SIZE".toList, ['0'])] =
          .ok ⟨1, [], "Error: max_json_size must be a positive integer (received: 0)\n".toList⟩ ∧
        ∀ document, ([] : Text) ≠ document ++ ['\n']) ∧
    ∀ engines disk pretty,
      (Command.parseQuery [.half 0] pretty).run engines disk [] = .error .unprintable := by
  obtain ⟨configuration, hconfiguration, hlevel⟩ := empty_logLevel
  refine ⟨⟨(read_operand ['x'] (by decide)).1, fun engines disk => ⟨by cbv, by simp⟩⟩, ?_⟩
  intro engines disk pretty
  exact run_parseQuery_half engines disk [] configuration hconfiguration hlevel _ rfl pretty

end Cli
end Quarry
