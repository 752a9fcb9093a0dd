import Quarry.Cli.Run
import Quarry.Proofs.Path.Spelling
import Quarry.Proofs.Settings.Made

/-! The three routes to settings: from the values themselves, from an environment that holds them,
and from options of a command over an environment that holds others. -/
namespace Quarry.Cli

/-- The settings of a command that reads a file: those of the environment, with what its options put
in their place. -/
def settingsFor (overrides : Overrides) (environment : Environment) : Except Fault Settings := do
  let configuration ← environment.configuration
  overrides.apply configuration.settings

/-- Routes agree if they all lead to the same settings, or if all of them refuse what was given. -/
def Agree (routes : List (Except Fault Settings)) : Prop :=
  (∃ settings, ∀ route ∈ routes, route = .ok settings) ∨
    ∀ route ∈ routes, Settings.Refused route

theorem agree_of_refused (routes : List (Except Fault Settings)) (route : Except Fault Settings)
    (hroute : route ∈ routes) (h : Settings.Refused route) :
    Agree routes ↔ ∀ other ∈ routes, Settings.Refused other := by
  refine ⟨?_, .inr⟩
  rintro (⟨settings, hsettings⟩ | hall)
  · obtain ⟨fault, hfault, -⟩ := h
    cases (hsettings route hroute).symm.trans hfault
  · exact hall

theorem not_agree (routes : List (Except Fault Settings)) (fault : Fault) (settings : Settings)
    (hfault : .error fault ∈ routes) (hsettings : .ok settings ∈ routes) : ¬Agree routes := by
  rintro (⟨found, hfound⟩ | hall)
  · cases hfound _ hfault
  · obtain ⟨other, hother, -⟩ := hall _ hsettings
    cases hother

/-- The directory that is given, or the one that is there where none is. -/
def directoryOver (spelling : Text) (kept : Path) : Path :=
  if spelling = [] then kept else .ofText spelling

/-- The size that is given, or the one that is there where it is zero. -/
def sizeOver (size kept : Int) : Int := if size = 0 then kept else size

section

variable (spelling other : Text) (fileSize otherSize jsonSize : Int)

theorem ofValues_given (h : Integer.IsWritable fileSize) :
    Overrides.ofValues [(maxFileSizeOption, Text.ofInt fileSize), (baseDirOption, spelling)] =
      ⟨some spelling, some fileSize⟩ := by
  have hbase : List.lookup baseDirOption
      [(maxFileSizeOption, Text.ofInt fileSize), (baseDirOption, spelling)] = some spelling := rfl
  have hfile : List.lookup maxFileSizeOption
      [(maxFileSizeOption, Text.ofInt fileSize), (baseDirOption, spelling)] =
        some (Text.ofInt fileSize) := rfl
  rw [Overrides.ofValues, hbase, hfile, Option.bind_some, Integer.read?_ofInt fileSize h]

theorem apply_given (settings : Settings) :
    (Overrides.mk (some spelling) (some fileSize)).apply settings =
      Settings.make (.text (directoryOver spelling settings.baseDir).text)
        (.int (sizeOver fileSize settings.maxFileSize)) (.int settings.maxJsonSize) := by
  -- By what tells the options apart: an empty directory, and a size of zero.
  cases spelling with
  | nil => rcases fileSize with (_ | _) | _ <;> rfl
  | cons c rest => rcases fileSize with (_ | _) | _ <;> rfl

theorem settingsFor_eq (overrides : Overrides) (environment : Environment) :
    settingsFor overrides environment = environment.settings >>= overrides.apply := by
  rw [settingsFor, Environment.configuration]
  cases environment.settings <;> rfl

/-- The options of a command over an environment that holds a valid directory and a valid size. -/
theorem settingsFor_given (environment : Environment)
    (hholds : environment.Holds other otherSize jsonSize) (hother : ¬(Path.ofText other).IsBlankName)
    (hsize : 0 < otherSize) (hwritable : Integer.IsWritable otherSize)
    (hjson : Integer.IsWritable jsonSize) :
    settingsFor ⟨some spelling, some fileSize⟩ environment =
      if jsonSize ≤ 0 then
        .error (.sizeNotPositive "max_json_size".toList (.int jsonSize))
      else
        Settings.make (.text (directoryOver spelling (.ofText other)).text)
          (.int (sizeOver fileSize otherSize)) (.int jsonSize) := by
  have hblank : ¬Text.isBlank (Path.ofText other).text = true := by
    rwa [Path.isBlank_text_iff]
  rw [settingsFor_eq, Environment.settings_of_holds environment other otherSize jsonSize hholds
    hwritable hjson, Settings.make_eq, if_neg hblank, if_neg (Int.not_le.2 hsize)]
  by_cases hnone : jsonSize ≤ 0
  · rw [if_pos hnone, if_pos hnone]
    rfl
  · have hkept : (otherSize.toNat : Int) = otherSize := Int.toNat_of_nonneg (Int.le_of_lt hsize)
    have hjsonKept : (jsonSize.toNat : Int) = jsonSize :=
      Int.toNat_of_nonneg (Int.le_of_lt (Int.not_le.1 hnone))
    rw [if_neg hnone, if_neg hnone]
    refine (apply_given spelling fileSize _).trans ?_
    rw [hkept, hjsonKept, Path.ofText_text_ofText]

/-- Where no directory is given, neither the one that is there nor the empty path is a blank
name. -/
theorem isBlank_directoryOver_iff (kept : Path) (hkept : ¬kept.IsBlankName) :
    Text.isBlank (directoryOver spelling kept).text = true ↔
      (Path.ofText spelling).IsBlankName := by
  rw [Path.isBlank_text_iff, directoryOver]
  by_cases hempty : spelling = []
  · have hnone : ¬(Path.ofText []).IsBlankName := by
      rw [← Path.isBlank_text_iff]
      decide
    rw [if_pos hempty, hempty]
    exact iff_of_false hkept hnone
  · rw [if_neg hempty]

section

variable (kept : Path)

/-- The settings that the three routes make, once what they read is known: from the directory as it
is given, from its path, and from what the options put over a directory and a size that are there. -/
def madeRoutes : List (Except Fault Settings) :=
  [Settings.make (.text spelling) (.int fileSize) (.int jsonSize),
    Settings.make (.text (Path.ofText spelling).text) (.int fileSize) (.int jsonSize),
    Settings.make (.text (directoryOver spelling kept).text) (.int (sizeOver fileSize otherSize))
      (.int jsonSize)]

theorem forall_mem_madeRoutes (holds : Except Fault Settings → Prop) :
    (∀ route ∈ madeRoutes spelling fileSize otherSize jsonSize kept, holds route) ↔
      holds (Settings.make (.text spelling) (.int fileSize) (.int jsonSize)) ∧
        holds (Settings.make (.text (Path.ofText spelling).text) (.int fileSize) (.int jsonSize)) ∧
        holds (Settings.make (.text (directoryOver spelling kept).text)
          (.int (sizeOver fileSize otherSize)) (.int jsonSize)) := by
  simp [madeRoutes]

/-- A size below zero is refused on every route. -/
theorem agree_of_neg (hneg : fileSize < 0) :
    Agree (madeRoutes spelling fileSize otherSize jsonSize kept) := by
  have hgiven : sizeOver fileSize otherSize = fileSize := if_neg (Int.ne_of_lt hneg)
  have hrefused (directory : Text) :
      Settings.Refused (Settings.make (.text directory) (.int fileSize) (.int jsonSize)) :=
    (Settings.refused_make_iff _ _ _).2 (.inr (.inl (Int.le_of_lt hneg)))
  right
  rw [forall_mem_madeRoutes, hgiven]
  exact ⟨hrefused _, hrefused _, hrefused _⟩

/-- A size of zero is refused without options, and with them gives way to the size that is there. -/
theorem agree_of_zero_iff (hkept : ¬kept.IsBlankName) (hsize : 0 < otherSize)
    (hjson : 0 < jsonSize) :
    Agree (madeRoutes spelling 0 otherSize jsonSize kept) ↔ (Path.ofText spelling).IsBlankName := by
  have hzero (directory : Text) :
      Settings.Refused (Settings.make (.text directory) (.int 0) (.int jsonSize)) :=
    (Settings.refused_make_iff _ _ _).2 (.inr (.inl (Int.le_refl 0)))
  have hgiven : sizeOver 0 otherSize = otherSize := if_pos rfl
  rw [agree_of_refused (madeRoutes ..) _ List.mem_cons_self (hzero spelling),
    forall_mem_madeRoutes, hgiven,
    and_iff_right (hzero _), and_iff_right (hzero _), Settings.refused_make_iff,
    isBlank_directoryOver_iff spelling kept hkept]
  exact or_iff_left (by omega)

/-- A size that can be used leaves the directory to decide, which is refused as a text, or as the
path that the other two routes make of it. -/
theorem agree_of_pos_iff (hkept : ¬kept.IsBlankName) (hpos : 0 < fileSize) (hjson : 0 < jsonSize) :
    Agree (madeRoutes spelling fileSize otherSize jsonSize kept) ↔
      (Text.isBlank spelling = true ↔ (Path.ofText spelling).IsBlankName) := by
  have hgiven : sizeOver fileSize otherSize = fileSize := if_neg (Int.ne_of_gt hpos)
  have hrefused (directory : Text) :
      Settings.Refused (Settings.make (.text directory) (.int fileSize) (.int jsonSize)) ↔
        Text.isBlank directory = true :=
    (Settings.refused_make_iff _ _ _).trans (or_iff_left (by omega))
  have hname := Path.isBlank_text_iff (.ofText spelling)
  have hall : (∀ route ∈ madeRoutes spelling fileSize otherSize jsonSize kept,
      Settings.Refused route) ↔
        Text.isBlank spelling = true ∧ (Path.ofText spelling).IsBlankName := by
    rw [forall_mem_madeRoutes, hgiven, hrefused, hrefused, hrefused, hname,
      isBlank_directoryOver_iff spelling kept hkept, and_self]
  by_cases hblank : Text.isBlank spelling = true
  · rw [agree_of_refused (madeRoutes ..) _ List.mem_cons_self ((hrefused _).2 hblank), hall]
    simp only [hblank, true_and, true_iff]
  by_cases hblankName : (Path.ofText spelling).IsBlankName
  · rw [agree_of_refused (madeRoutes ..) _ (List.mem_cons_of_mem _ List.mem_cons_self)
      ((hrefused _).2 (hname.2 hblankName)), hall]
    simp only [hblank, hblankName, and_true, iff_true]
  · have hdirectory : directoryOver spelling kept = .ofText spelling := by
      apply if_neg
      rintro rfl
      exact hblank rfl
    have hvisible : Text.isBlank (Path.ofText spelling).text = false := by
      rwa [← Bool.not_eq_true, hname]
    refine iff_of_true (.inl ⟨⟨.ofText spelling, fileSize.toNat, jsonSize.toNat⟩, ?_⟩)
      (iff_of_false hblank hblankName)
    rw [forall_mem_madeRoutes, hgiven, hdirectory]
    have hpath := (Settings.make_eq_ok _ fileSize jsonSize _).2
      ⟨hvisible, hpos, hjson, rfl⟩
    rw [Path.ofText_text_ofText] at hpath
    exact ⟨(Settings.make_eq_ok _ _ _ _).2 ⟨by simpa using hblank, hpos, hjson, rfl⟩, hpath, hpath⟩

theorem agree_made_iff (hkept : ¬kept.IsBlankName) (hsize : 0 < otherSize) (hjson : 0 < jsonSize) :
    Agree (madeRoutes spelling fileSize otherSize jsonSize kept) ↔
      (0 < fileSize → (Text.isBlank spelling = true ↔ (Path.ofText spelling).IsBlankName)) ∧
        (fileSize = 0 → (Path.ofText spelling).IsBlankName) := by
  rcases Int.lt_trichotomy fileSize 0 with hneg | rfl | hpos
  · exact iff_of_true (agree_of_neg spelling fileSize otherSize jsonSize kept hneg)
      ⟨by omega, by omega⟩
  · rw [agree_of_zero_iff spelling otherSize jsonSize kept hkept hsize hjson]
    simp
  · rw [agree_of_pos_iff spelling fileSize otherSize jsonSize kept hkept hpos hjson]
    simp [hpos, Int.ne_of_gt hpos]

/-- What is accepted is what was given, where the options leave nothing that is there. -/
theorem values_of_madeRoutes (hspelling : spelling ≠ []) (hzero : fileSize ≠ 0) :
    ∀ route ∈ madeRoutes spelling fileSize otherSize jsonSize kept, ∀ settings,
      route = .ok settings →
        settings.baseDir = .ofText spelling ∧ settings.maxFileSize = fileSize ∧
          settings.maxJsonSize = jsonSize := by
  have hdirectory : directoryOver spelling kept = .ofText spelling := if_neg hspelling
  have hgiven : sizeOver fileSize otherSize = fileSize := if_neg hzero
  have hpath (settings : Settings)
      (hsettings : Settings.make (.text (Path.ofText spelling).text) (.int fileSize)
        (.int jsonSize) = .ok settings) :
      settings.baseDir = .ofText spelling ∧ settings.maxFileSize = fileSize ∧
        settings.maxJsonSize = jsonSize := by
    rw [← Path.ofText_text_ofText spelling]
    exact Settings.values_of_make _ fileSize jsonSize settings hsettings
  rw [forall_mem_madeRoutes, hgiven, hdirectory]
  exact ⟨Settings.values_of_make spelling fileSize jsonSize, hpath, hpath⟩

end

end

/-- The values themselves, the environment that holds them and the options over another environment
lead to the same settings or are refused together. It is otherwise only where the size of documents
is good and either the size of files is too and the directory, as a text, is blank while its path is
no blank name, or the other way round, or the size of files is zero and the path no blank name. With
a directory that is not empty and a size of files that is not zero, what is accepted is what was
given. -/
theorem routes_agree_iff (spelling other : Text) (fileSize otherSize jsonSize : Int)
    (hfile : Integer.IsWritable fileSize) (hjson : Integer.IsWritable jsonSize)
    (environment : Environment) (hholds : environment.Holds spelling fileSize jsonSize)
    (fallback : Environment) (hfallback : fallback.Holds other otherSize jsonSize)
    (hother : ¬(Path.ofText other).IsBlankName) (hsize : 0 < otherSize)
    (hwritable : Integer.IsWritable otherSize) :
    let routes := [Settings.make (.text spelling) (.int fileSize) (.int jsonSize),
      environment.settings,
      settingsFor (.ofValues [(maxFileSizeOption, Text.ofInt fileSize), (baseDirOption, spelling)])
        fallback]
    (Agree routes ↔ (0 < jsonSize →
      (0 < fileSize → (Text.isBlank spelling = true ↔ (Path.ofText spelling).IsBlankName)) ∧
        (fileSize = 0 → (Path.ofText spelling).IsBlankName))) ∧
      (spelling ≠ [] → fileSize ≠ 0 → ∀ route ∈ routes, ∀ settings, route = .ok settings →
        settings.baseDir = .ofText spelling ∧ settings.maxFileSize = fileSize ∧
          settings.maxJsonSize = jsonSize) := by
  have hheld := Environment.settings_of_holds environment spelling fileSize jsonSize hholds hfile
    hjson
  have hchosen := settingsFor_given spelling other fileSize otherSize jsonSize fallback hfallback
    hother hsize hwritable hjson
  rw [ofValues_given spelling fileSize hfile, hheld, hchosen]
  intro routes
  by_cases hjsonSize : jsonSize ≤ 0
  · -- The size of documents is refused on every route.
    have hrefused (directory : Text) :
        Settings.Refused (Settings.make (.text directory) (.int fileSize) (.int jsonSize)) :=
      (Settings.refused_make_iff _ _ _).2 (.inr (.inr hjsonSize))
    have hall : ∀ route ∈ routes, Settings.Refused route := by
      simp only [routes, if_pos hjsonSize, List.forall_mem_cons]
      exact ⟨hrefused _, hrefused _, ⟨_, rfl, _, rfl, rfl⟩, List.forall_mem_nil _⟩
    refine ⟨iff_of_true (.inr hall) fun hpos => absurd hpos (Int.not_lt.2 hjsonSize), ?_⟩
    intro _ _ route hroute settings hsettings
    obtain ⟨fault, hfault, -⟩ := hall route hroute
    cases hfault.symm.trans hsettings
  · have hpos : 0 < jsonSize := Int.not_le.1 hjsonSize
    have hmade : routes = madeRoutes spelling fileSize otherSize jsonSize (.ofText other) := by
      simp only [routes, if_neg hjsonSize, madeRoutes]
    rw [hmade, agree_made_iff spelling fileSize otherSize jsonSize _ hother hsize hpos]
    exact ⟨⟨fun hagree _ => hagree, fun hagree => hagree hpos⟩,
      values_of_madeRoutes spelling fileSize otherSize jsonSize _⟩

/-- A directory with a dot in front and a blank at its end, and a size that the environment of the
command has otherwise. -/
theorem routes_agree_iff_dotted :
    let spelling : Text := ['.', '/', 'a', ' ']
    let environment := Environment.holding spelling 5 7
    let fallback := Environment.holding ['/', 'k'] 9 7
    Integer.IsWritable 5 ∧ Integer.IsWritable 7 ∧ environment.Holds spelling 5 7 ∧
      fallback.Holds ['/', 'k'] 9 7 ∧ ¬(Path.ofText ['/', 'k']).IsBlankName ∧ (0 : Int) < 9 ∧
      Integer.IsWritable 9 ∧
      Agree [Settings.make (.text spelling) (.int 5) (.int 7), environment.settings,
        settingsFor (.ofValues [(maxFileSizeOption, Text.ofInt 5), (baseDirOption, spelling)])
          fallback] := by
  intro spelling environment fallback
  have hholds := Environment.holds_holding spelling 5 7
  have hfallback := Environment.holds_holding ['/', 'k'] 9 7
  have hother : ¬(Path.ofText ['/', 'k']).IsBlankName := by
    rw [← Path.isBlank_text_iff]
    decide
  have hname : ¬(Path.ofText spelling).IsBlankName := by
    rw [← Path.isBlank_text_iff]
    decide
  have hagree := (routes_agree_iff spelling ['/', 'k'] 5 9 7 (by decide) (by decide) environment
    hholds fallback hfallback hother (by decide) (by decide)).1
  refine ⟨by decide, by decide, hholds, hfallback, hother, by decide, by decide, hagree.2 ?_⟩
  intro _
  exact ⟨fun _ => iff_of_false (by decide) hname, fun hzero => absurd hzero (by decide)⟩

/-- An empty directory is refused, but becomes the working directory on its way through the
environment, and as an option leaves the directory that is there. So does a size of zero with the
size. A blank name behind a dot and a slash is accepted by the first route alone. -/
theorem values_are_replaced :
    let fallback := Environment.holding ['/', 'k'] 9 1
    let routes (spelling : Text) (fileSize : Int) :=
      [Settings.make (.text spelling) (.int fileSize) (.int 1),
        (Environment.holding spelling fileSize 1).settings,
        settingsFor
          (.ofValues [(maxFileSizeOption, Text.ofInt fileSize), (baseDirOption, spelling)]) fallback]
    (routes [] 1 = [.error .emptyBaseDir, .ok ⟨⟨.relative, []⟩, 1, 1⟩,
        .ok ⟨⟨.slash, [['k']]⟩, 1, 1⟩] ∧ ¬Agree (routes [] 1)) ∧
      (routes ['a'] 0 = [.error (.sizeNotPositive "max_file_size".toList (.int 0)),
        .error (.sizeNotPositive "max_file_size".toList (.int 0)),
        .ok ⟨⟨.relative, [['a']]⟩, 9, 1⟩] ∧ ¬Agree (routes ['a'] 0)) ∧
      (routes ['.', '/', ' '] 1 = [.ok ⟨⟨.relative, [[' ']]⟩, 1, 1⟩, .error .emptyBaseDir,
        .error .emptyBaseDir] ∧ ¬Agree (routes ['.', '/', ' '] 1)) := by
  intro fallback routes
  have hother : ¬(Path.ofText ['/', 'k']).IsBlankName := by
    rw [← Path.isBlank_text_iff]
    decide
  have hroutes (spelling : Text) (fileSize : Int) (h : Integer.IsWritable fileSize) :
      routes spelling fileSize = [Settings.make (.text spelling) (.int fileSize) (.int 1),
        Settings.make (.text (Path.ofText spelling).text) (.int fileSize) (.int 1),
        Settings.make (.text (directoryOver spelling (.ofText ['/', 'k'])).text)
          (.int (sizeOver fileSize 9)) (.int 1)] := by
    simp only [routes, ofValues_given spelling fileSize h]
    rw [Environment.settings_of_holds _ spelling fileSize 1 (Environment.holds_holding _ _ _) h
      (by decide), settingsFor_given spelling ['/', 'k'] fileSize 9 1 fallback
      (Environment.holds_holding _ _ _) hother (by decide) (by decide) (by decide)]
    rfl
  have hempty : routes [] 1 = [.error .emptyBaseDir, .ok ⟨⟨.relative, []⟩, 1, 1⟩,
      .ok ⟨⟨.slash, [['k']]⟩, 1, 1⟩] := by
    rw [hroutes [] 1 (by decide)]
    simp only [Settings.make_eq]
    rfl
  have hzero : routes ['a'] 0 = [.error (.sizeNotPositive "max_file_size".toList (.int 0)),
      .error (.sizeNotPositive "max_file_size".toList (.int 0)),
      .ok ⟨⟨.relative, [['a']]⟩, 9, 1⟩] := by
    rw [hroutes ['a'] 0 (by decide)]
    simp only [Settings.make_eq]
    rfl
  have hblank : routes ['.', '/', ' '] 1 = [.ok ⟨⟨.relative, [[' ']]⟩, 1, 1⟩,
      .error .emptyBaseDir, .error .emptyBaseDir] := by
    rw [hroutes ['.', '/', ' '] 1 (by decide)]
    simp only [Settings.make_eq]
    rfl
  refine ⟨⟨hempty, ?_⟩, ⟨hzero, ?_⟩, hblank, ?_⟩
  · rw [hempty]
    exact not_agree _ _ _ (.head _) (.tail _ (.head _))
  · rw [hzero]
    exact not_agree _ _ _ (.head _) (.tail _ (.tail _ (.head _)))
  · rw [hblank]
    exact not_agree _ _ _ (.tail _ (.head _)) (.head _)

end Quarry.Cli
