import Quarry.Proofs.Path.Spelling
import Quarry.Proofs.Settings.Made

/-! Whether settings that were accepted are accepted once more. The spelling of a directory is
checked and its path is kept, and the path may have a shorter spelling. -/
namespace Quarry.Settings

/-- Settings are accepted again as they are, from themselves and from an environment that holds
them, unless their directory is a blank name. Such a name is refused as an empty one. -/
theorem make_stable (spelling : Text) (fileSize jsonSize : Int) (settings : Settings)
    (hmake : make (.text spelling) (.int fileSize) (.int jsonSize) = .ok settings)
    (hfile : Integer.IsWritable fileSize) (hjson : Integer.IsWritable jsonSize)
    (environment : Environment)
    (hholds : environment.Holds settings.baseDir.text settings.maxFileSize settings.maxJsonSize) :
    let again := make (.text settings.baseDir.text) (.int settings.maxFileSize)
      (.int settings.maxJsonSize)
    (again = .ok settings ↔ ¬settings.baseDir.IsBlankName) ∧
      (environment.settings = .ok settings ↔ ¬settings.baseDir.IsBlankName) ∧
      (settings.baseDir.IsBlankName →
        again = .error .emptyBaseDir ∧ environment.settings = .error .emptyBaseDir) := by
  intro again
  obtain ⟨hbase, hfileSize, hjsonSize⟩ := values_of_make spelling fileSize jsonSize settings hmake
  have hread : Path.ofText settings.baseDir.text = settings.baseDir := by
    rw [hbase, Path.ofText_text_ofText]
  have hheld : environment.settings = again := by
    rw [hfileSize, hjsonSize] at hholds
    rw [Environment.settings_of_holds environment _ _ _ hholds hfile hjson, hread, ← hfileSize,
      ← hjsonSize]
  have hagain : again = .ok settings ↔ ¬settings.baseDir.IsBlankName := by
    obtain ⟨-, hfilePos, hjsonPos, -⟩ := (make_eq_ok _ _ _ settings).1 hmake
    rw [make_eq_ok, hread, ← Path.isBlank_text_iff, Bool.not_eq_true]
    exact and_iff_left ⟨hfileSize ▸ hfilePos, hjsonSize ▸ hjsonPos, rfl⟩
  refine ⟨hagain, hheld ▸ hagain, fun hblank => ?_⟩
  have hempty : again = .error .emptyBaseDir :=
    (make_eq _ _ _).trans (if_pos ((Path.isBlank_text_iff _).2 hblank))
  exact ⟨hempty, hheld.trans hempty⟩

/-- A directory that has shorter spellings than the one it was given by. -/
theorem make_stable_dotted :
    let settings : Settings := ⟨⟨.relative, [['a'], [' ']]⟩, 100, 7⟩
    make (.text ['.', '/', 'a', '/', '/', ' ', '/']) (.int 100) (.int 7) = .ok settings ∧
      Integer.IsWritable 100 ∧ Integer.IsWritable 7 ∧
      (Environment.holding ['a', '/', ' '] 100 7).Holds settings.baseDir.text 100 7 ∧
      ¬settings.baseDir.IsBlankName ∧
      (Environment.holding ['a', '/', ' '] 100 7).settings = .ok settings := by
  intro settings
  have hmake : make (.text ['.', '/', 'a', '/', '/', ' ', '/']) (.int 100) (.int 7) =
      .ok settings := by rw [make_eq]; rfl
  have hholds : (Environment.holding ['a', '/', ' '] 100 7).Holds settings.baseDir.text 100 7 :=
    Environment.holds_holding _ 100 7
  have hnames : ¬settings.baseDir.IsBlankName := by
    rw [← Path.isBlank_text_iff]
    decide
  have hstable := make_stable _ 100 7 settings hmake (by decide) (by decide) _ hholds
  exact ⟨hmake, by decide, by decide, hholds, hnames, hstable.2.1.2 hnames⟩

/-- A blank name is accepted behind a dot and a slash, and then refused as it is kept. -/
theorem blankName_is_refused :
    make (.text ['.', '/', ' ']) (.int 1) (.int 1) = .ok ⟨⟨.relative, [[' ']]⟩, 1, 1⟩ ∧
      Path.text ⟨.relative, [[' ']]⟩ = [' '] ∧
      make (.text [' ']) (.int 1) (.int 1) = .error .emptyBaseDir ∧
      (Environment.holding [' '] 1 1).settings = .error .emptyBaseDir := by
  refine ⟨?_, by decide, ?_, ?_⟩
  · rw [make_eq]
    rfl
  · rw [make_eq]
    rfl
  · rw [Environment.settings_of_holds _ _ 1 1 (Environment.holds_holding [' '] 1 1) (by decide)
      (by decide), make_eq]
    rfl

end Quarry.Settings
