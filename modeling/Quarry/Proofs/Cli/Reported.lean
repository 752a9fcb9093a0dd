import Quarry.Cli.Run
import Quarry.Proofs.Document.Tame
import Quarry.Proofs.Sandbox.Isolation
import Quarry.Proofs.Settings.Made

/-! How a command ends. -/
namespace Quarry

namespace Cli

/-- A run ends with status zero, or with status one and nothing printed. -/
def Ends (run : Except Fault Outcome) : Prop :=
  ∃ outcome, run = .ok outcome ∧ (outcome.status = 0 ∨ outcome.status = 1 ∧ outcome.output = [])

theorem conclude_ends_iff (rank : Nat) (run : Traced Text) :
    Ends (conclude rank run) ↔ run.Reported := by
  rw [conclude]
  cases hrun : run.outcome with
  | ok text =>
    dsimp only
    exact iff_of_true ⟨_, rfl, Or.inl rfl⟩ (Traced.reported_of_ok run text hrun)
  | error fault =>
    rw [Traced.reported_of_error run fault hrun, Fault.isReported_iff]
    dsimp only
    cases fault.failure? with
    | none => simp [Ends]
    | some failure => exact iff_of_true ⟨_, rfl, Or.inr ⟨rfl, rfl⟩⟩ (by simp)

/-- Wherever the environment and the options are valid, the log is given a level that is one, and the
reader that they make is of a kind. -/
def Arranged (environment : Environment) (overrides : Overrides) (kind : DocumentReader → Prop) :
    Prop :=
  ∀ configuration, environment.configuration = .ok configuration →
    configuration.logLevel ∉ reservedNames ∧
      ∀ settings, overrides.apply configuration.settings = .ok settings →
        kind (DocumentReader.make settings .standard none)

theorem arranged_mono (environment : Environment) (overrides : Overrides)
    (kind other : DocumentReader → Prop) (hkind : ∀ reader, kind reader → other reader)
    (h : Arranged environment overrides kind) : Arranged environment overrides other := by
  intro configuration hconfiguration
  obtain ⟨hlevel, hreader⟩ := h configuration hconfiguration
  exact ⟨hlevel, fun settings hsettings => hkind _ (hreader settings hsettings)⟩

theorem rankOf_eq (level : Text) :
    (level ∈ reservedNames → rankOf level = .error (.notALevel level)) ∧
      (level ∉ reservedNames → ∃ rank, rankOf level = .ok rank) := by
  rw [rankOf]
  constructor
  · intro h
    rw [if_pos (List.contains_iff_mem.2 h)]
  · intro h
    rw [if_neg (by simpa using h)]
    exact ⟨_, rfl⟩

section

variable (engines : Engines) (disk : Disk) (environment : Environment)

/-- A command comes to an end if the log has such a level and every fault is reported. -/
theorem run_ends_iff (command : Command) : Ends (command.run engines disk environment) ↔
    ∀ configuration, environment.configuration = .ok configuration →
      configuration.logLevel ∉ reservedNames ∧
        (command.text engines disk configuration).Reported := by
  rw [Command.run]
  cases hconfiguration : environment.configuration with
  | error fault =>
    have hfault := Environment.configuration_reported environment fault hconfiguration
    dsimp only
    rw [conclude_ends_iff, Traced.reported_of_error _ fault rfl]
    exact iff_of_true hfault (by simp)
  | ok configuration =>
    simp only [Except.ok.injEq, forall_eq']
    by_cases hlevel : configuration.logLevel ∈ reservedNames
    · rw [(rankOf_eq _).1 hlevel]
      refine iff_of_false ?_ fun h => h.1 hlevel
      rintro ⟨outcome, houtcome, -⟩
      cases houtcome
    · obtain ⟨rank, hrank⟩ := (rankOf_eq _).2 hlevel
      rw [hrank, and_iff_right hlevel]
      exact conclude_ends_iff rank _

theorem readerFor_reported_iff (overrides : Overrides) (configuration : Configuration)
    (next : DocumentReader → Traced Text) :
    (readerFor overrides configuration >>= next).Reported ↔
      ∀ settings, overrides.apply configuration.settings = .ok settings →
        (next (DocumentReader.make settings .standard none)).Reported := by
  -- Settings that the options leave invalid are reported, so only valid ones count.
  have happly (fault : Fault) (h : overrides.apply configuration.settings = .error fault) :
      fault.IsReported := Settings.make_reported _ _ _ fault h
  rw [readerFor, Traced.bind_assoc, Traced.reported_bind_iff]
  simp only [Traced.pure_bind, Traced.outcome_ofExcept]
  exact and_iff_right happly

theorem apply_spelled (overrides : Overrides) (settings result : Settings)
    (h : overrides.apply settings = .ok result) :
    (DocumentReader.make result .standard none).sandbox.base.Spelled := by
  rw [DocumentReader.sandbox, DocumentReader.make, (Settings.values_of_make _ _ _ result h).1]
  exact Path.ofText_spelled _

/-- A command that goes on with a reader, and stops in certain states of it, comes to an end in the
other ones. -/
theorem run_ends_iff_of_reader (command : Command) (overrides : Overrides)
    (next : DocumentReader → Traced Text) (stops : DocumentReader → Prop)
    (htext : ∀ configuration, command.text engines disk configuration =
      readerFor overrides configuration >>= next)
    (hnext : ∀ reader, reader.sandbox.base.Spelled → ((next reader).Reported ↔ ¬stops reader)) :
    Ends (command.run engines disk environment) ↔
      Arranged environment overrides fun reader => ¬stops reader := by
  rw [run_ends_iff]
  refine forall₂_congr fun configuration _ => and_congr_right fun _ => ?_
  rw [htext, readerFor_reported_iff]
  refine forall₂_congr fun settings hsettings => ?_
  exact hnext _ (apply_spelled overrides _ settings hsettings)

variable (hd : disk.Sound) (overrides : Overrides) (path : Text)

include hd

theorem run_parseFile_ends_iff :
    Ends ((Command.parseFile path overrides).run engines disk environment) ↔
      Arranged environment overrides fun reader => ¬reader.ParsingStops disk (some path) := by
  apply run_ends_iff_of_reader engines disk environment (.parseFile path overrides) overrides
    (fun reader => reader.parseFile engines disk (some path))
    (fun reader => reader.ParsingStops disk (some path)) (fun _ => rfl)
  intro reader hb
  exact DocumentReader.parseFile_reported_iff reader disk (some path) engines hd hb

theorem run_detect_ends_iff :
    Ends ((Command.detect path overrides).run engines disk environment) ↔
      Arranged environment overrides fun reader => ¬reader.DetectionStops disk (some path) := by
  apply run_ends_iff_of_reader engines disk environment (.detect path overrides) overrides
    (fun reader => reader.detectFile disk (some path) >>= fun format => pure format.name)
    (fun reader => reader.DetectionStops disk (some path)) (fun _ => rfl)
  intro reader hb
  rw [Traced.reported_bind_iff,
    DocumentReader.detectFile_reported_iff reader disk (some path) hd hb]
  simp only [Traced.reported_pure, implies_true, and_true]

end

/-- Every reading ends with a result or a report, and every command with status zero, or with
status one and nothing printed, where no null character stands in the way to the file, its JSON nests
no deeper than is safe, its markup is not refused, its text can be written, and the log is given a level
that is one. None does where a null character is met, JSON is read that nests as deep as the limit,
markup is refused, or the level is none. Of what is in between nothing is said: JSON that nests deeper
than is safe, but not as deep as the limit, and text that cannot be written. -/
theorem ends_unless_stopped (engines : Engines) (disk : Disk) (hd : disk.Sound) :
    (∀ (reader : DocumentReader) (spelling : Text), reader.settings.baseDir = .ofText spelling →
      (∀ content path,
        (reader.Tame path (Text.withoutMark content) →
          (reader.parseContent content path).Reported) ∧
        (reader.Unread path (Text.withoutMark content) →
          ¬(reader.parseContent content path).Reported)) ∧
      ∀ requested,
        (reader.LeadsTo disk requested reader.Tame →
          (reader.parseFile engines disk requested).Reported) ∧
        (reader.ParsingStops disk requested →
          ¬(reader.parseFile engines disk requested).Reported) ∧
        (reader.LeadsTo disk requested reader.detector.Tame →
          (reader.detectFile disk requested).Reported) ∧
        (reader.DetectionStops disk requested → ¬(reader.detectFile disk requested).Reported) ∧
        (reader.sandbox.MeetsNul disk requested →
          Char.ofNat 0 ∈ spelling ∨ (∃ text, requested = some text ∧ Char.ofNat 0 ∈ text) ∨
            ∃ location target, disk.link? location = some target ∧ Char.ofNat 0 ∈ target)) ∧
    ∀ (environment : Environment) (overrides : Overrides) (path : Text),
      (Arranged environment overrides (fun reader => reader.LeadsTo disk (some path)
          fun path content => reader.Tame path content ∧ DocumentReader.Writable path content) →
        Ends ((Command.parseFile path overrides).run engines disk environment)) ∧
      (¬Arranged environment overrides (fun reader => ¬reader.ParsingStops disk (some path)) →
        ¬Ends ((Command.parseFile path overrides).run engines disk environment)) ∧
      (Arranged environment overrides (fun reader =>
          reader.LeadsTo disk (some path) reader.detector.Tame) →
        Ends ((Command.detect path overrides).run engines disk environment)) ∧
      (¬Arranged environment overrides (fun reader => ¬reader.DetectionStops disk (some path)) →
        ¬Ends ((Command.detect path overrides).run engines disk environment)) := by
  constructor
  · intro reader spelling hspelling
    have hb : reader.sandbox.base.Spelled := by
      rw [DocumentReader.sandbox, hspelling]
      exact Path.ofText_spelled spelling
    refine ⟨fun content path => ?_, fun requested => ?_⟩
    · rw [DocumentReader.parseContent_reported_iff]
      exact ⟨DocumentReader.not_unread_of_tame reader path _, not_not_intro⟩
    · rw [DocumentReader.parseFile_reported_iff reader disk requested engines hd hb,
        DocumentReader.detectFile_reported_iff reader disk requested hd hb]
      refine ⟨DocumentReader.not_parsingStops_of_tame reader disk requested, not_not_intro,
        DocumentReader.not_detectionStops_of_tame reader disk requested, not_not_intro,
        fun hnul => ?_⟩
      rw [DocumentReader.sandbox, hspelling] at hnul
      exact Sandbox.meetsNul_holds disk hd spelling _ requested hnul
  · intro environment overrides path
    rw [run_parseFile_ends_iff engines disk environment hd overrides path,
      run_detect_ends_iff engines disk environment hd overrides path]
    refine ⟨fun h => ?_, id, fun h => ?_, id⟩
    · refine arranged_mono environment overrides _ _ (fun reader hreader => ?_) h
      exact DocumentReader.not_parsingStops_of_tame reader disk (some path)
        (DocumentReader.leadsTo_mono reader disk (some path) _ _ (fun _ _ htext => htext.1) hreader)
    · refine arranged_mono environment overrides _ _ (fun reader hreader => ?_) h
      exact DocumentReader.not_detectionStops_of_tame reader disk (some path) hreader

open DocumentReader (smallReader)
open Sandbox (linkedDisk linkedDisk_sound)

/-- An environment that gives the log another of its names for a level. -/
def oddEnvironment : Environment := [("LOG_LEVEL".toList, "BASIC_FORMAT".toList)]

theorem oddEnvironment_configuration : ∃ configuration,
    oddEnvironment.configuration = .ok configuration ∧
      configuration.logLevel = "BASIC_FORMAT".toList := by
  have hlevel : oddEnvironment.logLevel = "BASIC_FORMAT".toList := by decide +kernel
  refine ⟨_, rfl, ?_⟩
  rw [← hlevel]

/-- A reader as the program makes it without an environment, of the directory `k`. -/
def plainReader : DocumentReader :=
  .make ⟨.ofText ['/', 'k'], 104857600, 10485760⟩ .standard none

theorem empty_configuration : ∃ configuration, Environment.configuration [] = .ok configuration ∧
    configuration.logLevel = "INFO".toList ∧
      (⟨some ['/', 'k'], none⟩ : Overrides).apply configuration.settings =
        .ok ⟨.ofText ['/', 'k'], 104857600, 10485760⟩ := by
  obtain ⟨configuration, hconfiguration, hname, hsettings⟩ : ∃ configuration,
      Environment.configuration [] = .ok configuration ∧
        configuration.logLevel = "INFO".toList ∧
          configuration.settings = ⟨.ofText "/app/kb".toList, 104857600, 10485760⟩ :=
    ⟨_, rfl, by cbv, by cbv⟩
  refine ⟨configuration, hconfiguration, hname, ?_⟩
  rw [hsettings]
  cbv

theorem arranged_empty (kind : DocumentReader → Prop) (h : kind plainReader) :
    Arranged [] ⟨some ['/', 'k'], none⟩ kind := by
  obtain ⟨configuration, hconfiguration, hname, happly⟩ := empty_configuration
  intro found hfound
  obtain rfl : configuration = found := Except.ok.inj (hconfiguration.symm.trans hfound)
  refine ⟨?_, fun settings happlied => ?_⟩
  · rw [hname]
    decide
  · obtain rfl := Except.ok.inj (happly.symm.trans happlied)
    exact h

theorem not_arranged_odd (overrides : Overrides) (kind : DocumentReader → Prop) :
    ¬Arranged oddEnvironment overrides kind := by
  intro h
  obtain ⟨configuration, hconfiguration, hname⟩ := oddEnvironment_configuration
  have hlevel := (h configuration hconfiguration).1
  rw [hname] at hlevel
  exact hlevel (by decide)

/-- What a link within the directory leads to is text without any JSON. -/
theorem leadsTo_linked (reader : DocumentReader) (hb : reader.sandbox.base.Spelled)
    (hcheck : (reader.sandbox.check linkedDisk (some ['i'])).outcome =
      .ok ⟨.slash, [['k'], ['a']]⟩) :
    reader.LeadsTo linkedDisk (some ['i']) fun path content => reader.Tame path content ∧
      reader.detector.Tame path content ∧ DocumentReader.Writable path content := by
  have hread : linkedDisk.readText ⟨.slash, [['k'], ['a']]⟩ =
      .ok [Char.ofNat 1, Char.ofNat 2, Char.ofNat 3] := by cbv
  have hpromise : Promise.ofPath ⟨.slash, [['k'], ['a']]⟩ = .anything := by cbv
  have hnesting : Json.nesting [Char.ofNat 1, Char.ofNat 2, Char.ofNat 3] ≤ Json.safeDepth := by cbv
  have hstrip : Text.strip [Char.ofNat 1, Char.ofNat 2, Char.ofNat 3] =
      [Char.ofNat 1, Char.ofNat 2, Char.ofNat 3] := by cbv
  have hlines : Text.lines [Char.ofNat 1, Char.ofNat 2, Char.ofNat 3] =
      [[Char.ofNat 1, Char.ofNat 2, Char.ofNat 3]] := by cbv
  have hvalue : Json.read [Char.ofNat 1, Char.ofNat 2, Char.ofNat 3] = .error .malformed := by cbv
  refine ⟨?_, fun path content hpath hcontent => ?_⟩
  · exact (Sandbox.check_reported_iff reader.sandbox linkedDisk linkedDisk_sound _ hb).1
      (Traced.reported_of_ok _ _ hcheck)
  · obtain rfl := Except.ok.inj (hcheck.symm.trans hpath)
    obtain rfl := Except.ok.inj (hread.symm.trans hcontent)
    have hdetector : reader.detector.Tame ⟨.slash, [['k'], ['a']]⟩ _ :=
      ⟨fun _ _ => hnesting, fun _ line hline => by
        rw [hlines, List.mem_singleton] at hline
        rwa [hline, hstrip]⟩
    refine ⟨⟨by simp [hpromise], fun _ => hdetector⟩, hdetector, ⟨?_, by simp [hpromise]⟩⟩
    intro _ text htext value hread
    rw [hlines, List.map_singleton, hstrip] at htext
    obtain rfl : text = _ := by simpa using htext
    rw [hvalue] at hread
    cases hread

/-- A null character at the end of the same path is met. -/
theorem meetsNul_linked (reader : DocumentReader)
    (hbase : Sandbox.canonical linkedDisk reader.sandbox.base = .ok ⟨.slash, [['k']]⟩) :
    reader.sandbox.MeetsNul linkedDisk (some ['i', Char.ofNat 0]) := by
  have hnul : linkedDisk.destination (.join ⟨.slash, [['k']]⟩ (.ofText ['i', Char.ofNat 0])) =
      .nulCharacter := by cbv
  have hblank : Text.isBlank ['i', Char.ofNat 0] = false := by cbv
  exact ⟨_, rfl, hblank, Or.inr ⟨_, hbase, hnul⟩⟩

theorem ends_unless_stopped_links : linkedDisk.Sound ∧
    (smallReader.parseContent ['x'] (.ofText ['a'])).Reported ∧
    ¬(smallReader.parseContent (List.replicate 3000 '[') (.ofText ['a'])).Reported ∧
    ∀ engines,
      ((smallReader.parseFile engines linkedDisk (some ['i'])).Reported ∧
        (smallReader.detectFile linkedDisk (some ['i'])).Reported) ∧
      (¬(smallReader.parseFile engines linkedDisk (some ['i', Char.ofNat 0])).Reported ∧
        ¬(smallReader.detectFile linkedDisk (some ['i', Char.ofNat 0])).Reported) ∧
      (Ends ((Command.parseFile ['i'] ⟨some ['/', 'k'], none⟩).run engines linkedDisk []) ∧
        Ends ((Command.detect ['i'] ⟨some ['/', 'k'], none⟩).run engines linkedDisk [])) ∧
      ∀ overrides,
        ¬Ends ((Command.parseFile ['i'] overrides).run engines linkedDisk oddEnvironment) ∧
        ¬Ends ((Command.detect ['i'] overrides).run engines linkedDisk oddEnvironment) := by
  have hpromise : Promise.ofPath (.ofText ['a']) = .anything := by cbv
  have htame : smallReader.Tame (.ofText ['a']) (Text.withoutMark ['x']) := by
    have hmark : Text.withoutMark ['x'] = ['x'] := by cbv
    have hlines : Text.lines ['x'] = [['x']] := by cbv
    rw [hmark]
    refine ⟨by simp [hpromise], fun _ => ⟨fun _ _ => by cbv, fun _ line hline => ?_⟩⟩
    rw [hlines, List.mem_singleton] at hline
    rw [hline]
    cbv
  have hunread : smallReader.Unread (.ofText ['a'])
      (Text.withoutMark (List.replicate 3000 '[')) := by
    rw [DocumentReader.withoutMark_brackets]
    exact DocumentReader.unread_brackets smallReader _ hpromise 3000 (by decide) rfl
  have hsmall := leadsTo_linked smallReader (Path.ofText_spelled _) (by cbv)
  have hplain := leadsTo_linked plainReader (Path.ofText_spelled _) (by cbv)
  have hmeets := meetsNul_linked smallReader (by cbv)
  refine ⟨linkedDisk_sound, ?_, ?_, fun engines => ?_⟩
  · exact ((ends_unless_stopped ⟨fun _ => .ok [], fun _ => .ok []⟩ linkedDisk linkedDisk_sound).1
      smallReader ['/', 'k'] rfl).1 ['x'] _ |>.1 htame
  · exact ((ends_unless_stopped ⟨fun _ => .ok [], fun _ => .ok []⟩ linkedDisk linkedDisk_sound).1
      smallReader ['/', 'k'] rfl).1 _ _ |>.2 hunread
  obtain ⟨hreading, hrunning⟩ := ends_unless_stopped engines linkedDisk linkedDisk_sound
  obtain ⟨-, hrequests⟩ := hreading smallReader ['/', 'k'] rfl
  obtain ⟨hparse, -, hdetect, -, -⟩ := hrequests (some ['i'])
  obtain ⟨-, hparseNul, -, hdetectNul, -⟩ := hrequests (some ['i', Char.ofNat 0])
  obtain ⟨hparseRun, -, hdetectRun, -⟩ := hrunning [] ⟨some ['/', 'k'], none⟩ ['i']
  refine ⟨⟨hparse ?_, hdetect ?_⟩, ⟨hparseNul (Or.inl hmeets), hdetectNul (Or.inl hmeets)⟩,
    ⟨hparseRun (arranged_empty _ ?_), hdetectRun (arranged_empty _ ?_)⟩, fun overrides => ?_⟩
  · exact DocumentReader.leadsTo_mono _ _ _ _ _ (fun _ _ h => h.1) hsmall
  · exact DocumentReader.leadsTo_mono _ _ _ _ _ (fun _ _ h => h.2.1) hsmall
  · exact DocumentReader.leadsTo_mono _ _ _ _ _ (fun _ _ h => ⟨h.1, h.2.2⟩) hplain
  · exact DocumentReader.leadsTo_mono _ _ _ _ _ (fun _ _ h => h.2.1) hplain
  · obtain ⟨-, hparseOdd, -, hdetectOdd⟩ := hrunning oddEnvironment overrides ['i']
    exact ⟨hparseOdd (not_arranged_odd overrides _), hdetectOdd (not_arranged_odd overrides _)⟩

/-- A null character in a path, content that nests too deeply and a level that is none are faults
of which nobody is told. -/
theorem reading_stops : linkedDisk.Sound ∧
    (¬Fault.nulInPath.IsReported ∧ ∀ engines,
      (smallReader.parseFile engines linkedDisk (some ['i', Char.ofNat 0])).outcome =
        .error .nulInPath ∧
      (smallReader.detectFile linkedDisk (some ['i', Char.ofNat 0])).outcome =
        .error .nulInPath ∧
      (Command.parseFile ['i', Char.ofNat 0] ⟨some ['/', 'k'], none⟩).run engines linkedDisk [] =
        .error .nulInPath) ∧
    (¬Fault.nestedTooDeeply.IsReported ∧
      (smallReader.parseContent (List.replicate 3000 '[') (.ofText ['a'])).outcome =
        .error .nestedTooDeeply) ∧
    ∀ engines, (Command.detect ['i'] ⟨some ['/', 'k'], none⟩).run engines linkedDisk
      oddEnvironment = .error (.notALevel "BASIC_FORMAT".toList) := by
  have hunreported (fault : Fault) (h : fault.failure? = none) : ¬fault.IsReported := by
    rw [Fault.isReported_iff, h]
    simp
  refine ⟨linkedDisk_sound, ⟨hunreported _ rfl, fun engines => ⟨by cbv, by cbv, ?_⟩⟩,
    ⟨hunreported _ rfl, ?_⟩, fun engines => ?_⟩
  · obtain ⟨configuration, hconfiguration, hname, happly⟩ := empty_configuration
    have hrank : rankOf configuration.logLevel = .ok 20 := by
      rw [hname, rankOf, if_neg (by decide)]
      rfl
    have hparse : (plainReader.parseFile engines linkedDisk (some ['i', Char.ofNat 0])).outcome =
        .error .nulInPath := by cbv
    rw [Command.run, hconfiguration]
    dsimp only
    rw [hrank]
    have houtcome : ((Command.parseFile ['i', Char.ofNat 0] ⟨some ['/', 'k'], none⟩).text engines
        linkedDisk configuration).outcome = .error .nulInPath := by
      rw [Command.text, readerFor, happly]
      exact hparse
    change conclude 20 _ = _
    rw [conclude, houtcome]
    rfl
  · exact DocumentReader.parseContent_brackets smallReader (.ofText ['a']) (by cbv) 3000 (by decide)
      rfl
  · obtain ⟨configuration, hconfiguration, hname⟩ := oddEnvironment_configuration
    have hrank : rankOf configuration.logLevel = .error (.notALevel "BASIC_FORMAT".toList) := by
      rw [hname]
      exact (rankOf_eq _).1 (by decide)
    rw [Command.run, hconfiguration]
    dsimp only
    rw [hrank]
    rfl

end Cli
end Quarry
