import Quarry.Document
import Quarry.Proofs.Sandbox.Admission
import Quarry.Proofs.Text.LineEnds
import Quarry.Proofs.Text.Stray

/-! Text that is read from a file, and the same text in memory: they are parsed alike, whatever
octets stand between the characters of the file without belonging to any. -/
namespace Quarry

namespace Disk

theorem readText_of_strewn (disk : Disk) (path : Path) (text : Text) (octets : List UInt8)
    (hread : disk.read path = .ok octets) (h : Utf8.Strewn text octets) :
    disk.readText path = .ok (Text.withoutMark (Text.withLineFeeds text)) := by
  simp only [readText, hread, bind, Except.bind, Utf8.decode_strewn text octets h,
    Text.uniformLineEnds_eq]

end Disk

namespace DocumentReader

/-- A file that is no binary, lies within the base and is not too large is parsed as its text is
parsed in memory with uniform line ends: result, fault and log are the same. -/
theorem parseFile_eq_parseContent (disk : Disk) (hd : disk.Sound) (reader : DocumentReader)
    (spelling : Text) (hspelling : reader.settings.baseDir = .ofText spelling)
    (requested : Option Text) (path : Path)
    (hpath : (reader.sandbox.resolve disk requested).outcome = .ok path)
    (hformat : (Promise.ofPath path).format.isBinary = false) (text : Text) (octets : List UInt8)
    (hread : disk.read path = .ok octets) (hsize : octets.length ≤ reader.settings.maxFileSize)
    (hoctets : Utf8.Strewn text octets) (engines : Engines) :
    reader.parseFile engines disk requested =
      reader.parseContent (Text.withLineFeeds text) path := by
  have hspelled : reader.sandbox.base.Spelled := by
    simp only [sandbox, hspelling]
    exact Path.ofText_spelled spelling
  have hcheck := Sandbox.check_eq_pure reader.sandbox disk requested path hpath hd hspelled
    octets.length (disk.size_of_read path octets hread) hsize
  have htext := disk.readText_of_strewn path text octets hread hoctets
  have hcontent : readText disk path = pure (Text.withoutMark (Text.withLineFeeds text)) := by
    rw [readText, htext]
  have hbinary : ¬(Promise.ofPath path).format.isBinary = true := by simp [hformat]
  -- A mark at the front is dropped in both, here when the file is read and there from the text.
  calc reader.parseFile engines disk requested
    _ = readText disk path >>= reader.parseText path := by
      rw [parseFile, hcheck, Traced.pure_bind]
      exact if_neg hbinary
    _ = reader.parseText path (Text.withoutMark (Text.withLineFeeds text)) := by
      rw [hcontent, Traced.pure_bind]
    _ = reader.parseContent (Text.withLineFeeds text) path := by
      rw [parseContent, if_neg hbinary]

/-- A directory with a file `a`, in which a byte order mark, `a`, a carriage return, a line feed and
`é` stand among octets of no character. -/
def strewnDisk : Disk where
  nodes :=
    [([['k']], .directory),
     ([['k'], ['a']], .file [0xFF, 0xEF, 0xBB, 0xBF, 0x61, 0x0D, 0x80, 0x0A, 0xC3, 0xA9, 0xC1])]
  workingDirectory := []

/-- A reader of that directory, whose file is just not too large. -/
def strewnReader : DocumentReader := ⟨⟨.ofText ['/', 'k'], 11, 4⟩, .standard, ⟨none⟩⟩

theorem parseFile_eq_parseContent_strewn :
    strewnDisk.Sound ∧
    (strewnReader.sandbox.resolve strewnDisk (some ['a'])).outcome =
      .ok ⟨.slash, [['k'], ['a']]⟩ ∧
    Text.withLineFeeds ['\uFEFF', 'a', '\r', '\n', 'é'] = ['\uFEFF', 'a', '\n', 'é'] ∧
    ∀ engines, strewnReader.parseFile engines strewnDisk (some ['a']) =
      strewnReader.parseContent ['\uFEFF', 'a', '\n', 'é'] ⟨.slash, [['k'], ['a']]⟩ := by
  have hsound : strewnDisk.Sound := ⟨by decide, by decide, by decide⟩
  have hpath : (strewnReader.sandbox.resolve strewnDisk (some ['a'])).outcome =
      .ok ⟨.slash, [['k'], ['a']]⟩ := by cbv
  have hread : strewnDisk.read ⟨.slash, [['k'], ['a']]⟩ =
      .ok [0xFF, 0xEF, 0xBB, 0xBF, 0x61, 0x0D, 0x80, 0x0A, 0xC3, 0xA9, 0xC1] := by cbv
  have hformat : (Promise.ofPath ⟨.slash, [['k'], ['a']]⟩).format.isBinary = false := by cbv
  have hlines : Text.withLineFeeds ['\uFEFF', 'a', '\r', '\n', 'é'] =
      ['\uFEFF', 'a', '\n', 'é'] := by decide
  have hend : Utf8.Strewn [] [0xC1] := .stray _ _ _ (Or.inl (by decide)) .done
  have hfeed : Utf8.Strewn ['\n', 'é'] [0x0A, 0xC3, 0xA9, 0xC1] := .char _ _ _ (.char _ _ _ hend)
  have hreturn : Utf8.Strewn ['a', '\r', '\n', 'é'] [0x61, 0x0D, 0x80, 0x0A, 0xC3, 0xA9, 0xC1] :=
    .char _ _ _ (.char _ _ _ (.stray _ _ _ (Or.inl (by decide)) hfeed))
  have hoctets : Utf8.Strewn ['\uFEFF', 'a', '\r', '\n', 'é']
      [0xFF, 0xEF, 0xBB, 0xBF, 0x61, 0x0D, 0x80, 0x0A, 0xC3, 0xA9, 0xC1] :=
    .stray _ _ _ (Or.inr (by decide)) (.char _ _ _ hreturn)
  refine ⟨hsound, hpath, hlines, fun engines => ?_⟩
  rw [← hlines]
  exact parseFile_eq_parseContent strewnDisk hsound strewnReader ['/', 'k'] rfl (some ['a']) _ hpath
    hformat _ _ hread (by decide) hoctets engines

end DocumentReader
end Quarry
