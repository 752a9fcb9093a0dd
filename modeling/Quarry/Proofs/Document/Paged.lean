import Quarry.Proofs.Document.Detected
import Quarry.Proofs.Sandbox.Admission

/-! PDF files, which an engine reads page by page: either every page is read, and the text is made of
those that are not blank, or the first failure is told and there is no text at all. -/
namespace Quarry

namespace Page

/-- Why a page cannot be read, if it cannot. -/
def cause? : Page → Option Text
  | .failed cause => some cause
  | _ => none

/-- The text layer of a page, unless nothing but blanks is in it. -/
def filled? : Page → Option Text
  | .text layer => if Text.isBlank layer then none else some layer
  | _ => none

end Page

/-- The texts of the pages that are not blank, each with the place of its page, where the first page
is at place one. -/
def filledPages (pages : List Page) : List (Text × Nat) :=
  (pages.zipIdx 1).filterMap fun (page, number) => page.filled?.map (·, number)

/-- Pages are read unless one of them fails, and it is the first one that fails of which the cause is
told. -/
theorem textPagesFrom_eq (number : Nat) (pages : List Page) : textPagesFrom number pages =
    match pages.findSome? Page.cause? with
    | some cause => .error cause
    | none => .ok ((pages.zipIdx number).filterMap fun (page, number) =>
        page.filled?.map (·, number)) := by
  induction pages generalizing number with
  | nil => rfl
  | cons page others ih =>
    rw [List.zipIdx_cons, List.findSome?_cons, textPagesFrom, ih]
    cases page with
    | failed cause => rfl
    | empty =>
      cases others.findSome? Page.cause? with
      | none => rfl
      | some cause => rfl
    | text layer =>
      cases others.findSome? Page.cause? with
      | some cause => rfl
      | none =>
        rw [List.filterMap_cons]
        simp only [Page.layer, Page.cause?, Page.filled?, bind, Except.bind]
        split
        · rfl
        · rfl

namespace Engines

/-- Why a PDF file has no text: the engine does not open it, or fails on a page, of which the first
one counts. -/
def pdfFailure? (engines : Engines) (content : Except DiskError (List UInt8)) : Option Text :=
  match engines.pdf content with
  | .error cause => some cause
  | .ok pages => pages.findSome? Page.cause?

variable (engines : Engines) (content : Except DiskError (List UInt8))

theorem extractPdf_of_failure (cause : Text) (h : engines.pdfFailure? content = some cause) :
    engines.extractPdf content = .error cause := by
  rw [pdfFailure?] at h
  cases hpages : engines.pdf content with
  | error found =>
    rw [hpages] at h
    obtain rfl : found = cause := Option.some.inj h
    simp [extractPdf, hpages, bind, Except.bind]
  | ok pages =>
    rw [hpages] at h
    dsimp only at h
    have hfound : textPages pages = .error cause := by rw [textPages, textPagesFrom_eq, h]
    simp [extractPdf, hpages, hfound, bind, Except.bind]

theorem extractPdf_of_none (h : engines.pdfFailure? content = none) :
    ∃ pages, engines.pdf content = .ok pages ∧ textPages pages = .ok (filledPages pages) ∧
      engines.extractPdf content = .ok ⟨(filledPages pages).map fun (text, number) =>
        (text, some (number : Int)), "pypdf".toList⟩ := by
  rw [pdfFailure?] at h
  cases hpages : engines.pdf content with
  | error cause =>
    rw [hpages] at h
    cases h
  | ok pages =>
    rw [hpages] at h
    dsimp only at h
    have hfound : textPages pages = .ok (filledPages pages) := by
      rw [textPages, textPagesFrom_eq, h]
      rfl
    refine ⟨pages, rfl, hfound, ?_⟩
    simp only [extractPdf, hpages, hfound, bind, Except.bind]

end Engines

namespace DocumentReader

theorem format_of_pdf (path : Path) (hsuffix : Text.lower path.suffix = ".pdf".toList) :
    (Promise.ofPath path).format = .pdf := by
  rw [Promise.ofPath_of_mem path (.settled .pdf) (by simp [hsuffix, Promise.suffixes])]
  rfl

theorem parseBinary_of_pages (engines : Engines) (disk : Disk) (path : Path)
    (found : List (Text × Nat)) (h : engines.extractPdf (disk.read path) =
      .ok ⟨found.map fun (text, number) => (text, some (number : Int)), "pypdf".toList⟩) :
    parseBinary engines disk .pdf path =
      ⟨[parsedEntry .pdf path.text (Text.unlines (found.map (·.1)))
        (", ".toList ++ Text.ofNat found.length ++ " pages".toList)],
        .ok (Text.unlines (found.map (·.1)))⟩ := by
  have htext : (Extraction.mk (found.map fun (text, number) => (text, some (number : Int)))
      "pypdf".toList).text = Text.unlines (found.map (·.1)) := by
    rw [Extraction.text, List.map_map]
    rfl
  have hcount : (Extraction.mk (found.map fun (text, number) => (text, some (number : Int)))
      "pypdf".toList).pageCount = found.length := by
    rw [Extraction.pageCount, List.length_map]
  rw [parseBinary, if_pos rfl, h]
  dsimp only
  rw [htext, hcount]
  rfl

/-- A PDF file that is let through and is not too large is read page by page. If the engine opens it
and fails on no page, its text is made of the texts of the pages that are not blank, as they are and
one below the other, and the log tells of nothing else. Otherwise there is no text and nothing is
logged, and what is reported names the file and the first failure. A file that is too large is reported
whatever its engine would make of it. -/
theorem parseFile_pdf (reader : DocumentReader) (disk : Disk) (requested : Option Text) (path : Path)
    (hd : disk.Sound) (hb : reader.sandbox.base.Spelled)
    (hresolve : (reader.sandbox.resolve disk requested).outcome = .ok path)
    (hsuffix : Text.lower path.suffix = ".pdf".toList) (size : Nat)
    (hsize : disk.size path = .ok size) :
    (size ≤ reader.settings.maxFileSize → ∀ engines : Engines,
      (engines.pdfFailure? (disk.read path) = none →
        ∃ pages text, engines.pdf (disk.read path) = .ok pages ∧
          textPages pages = .ok (filledPages pages) ∧
          text = Text.unlines ((filledPages pages).map (·.1)) ∧
          reader.parseFile engines disk requested = ⟨[parsedEntry .pdf path.text text
            (", ".toList ++ Text.ofNat (filledPages pages).length ++ " pages".toList)], .ok text⟩) ∧
      ∀ cause, engines.pdfFailure? (disk.read path) = some cause →
        ∃ fault, reader.parseFile engines disk requested = ⟨[], .error fault⟩ ∧
          fault.failure? = some ⟨.fileOperation, "Failed to parse PDF: ".toList ++ path.text,
            .record [("path".toList, .text path.text), ("cause".toList, .text cause)]⟩) ∧
    (reader.settings.maxFileSize < size → ∀ engines : Engines,
      reader.parseFile engines disk requested =
        ⟨[], .error (.fileTooLarge path.text size reader.settings.maxFileSize)⟩) := by
  have hparse (hlimit : size ≤ reader.settings.maxFileSize) (engines : Engines) :
      reader.parseFile engines disk requested = parseBinary engines disk .pdf path := by
    have hcheck := Sandbox.check_eq_pure reader.sandbox disk requested path hresolve hd hb size
      hsize hlimit
    rw [parseFile, hcheck, Traced.pure_bind, format_of_pdf path hsuffix]
    rfl
  refine ⟨fun hlimit engines => ⟨fun hnone => ?_, fun cause hcause => ?_⟩, fun hlimit engines => ?_⟩
  · obtain ⟨pages, hpages, hfound, hextract⟩ := engines.extractPdf_of_none _ hnone
    refine ⟨pages, _, hpages, hfound, rfl, ?_⟩
    rw [hparse hlimit engines, parseBinary_of_pages engines disk path _ hextract]
  · have hname : shownFormat .pdf = "PDF".toList := by decide
    refine ⟨.extractionFailed (shownFormat .pdf) path.text cause, ?_, ?_⟩
    · rw [hparse hlimit engines, parseBinary, if_pos rfl,
        engines.extractPdf_of_failure _ cause hcause]
      rfl
    · rw [hname]
      rfl
  · -- The size is checked before the file is opened, so the engines do not come into it.
    have hcheck := Sandbox.check_eq_fail reader.sandbox disk requested path hresolve hd hb size hsize
      hlimit
    rw [parseFile, hcheck]
    rfl

/-- A directory with a file `b.PDF` of three octets. -/
def pagedDisk : Disk where
  nodes := [([['k']], .directory), ([['k'], "b.PDF".toList], .file [0x25, 0x50, 0x44])]
  workingDirectory := []

/-- A reader of that directory, up to some size of files. -/
def pagedReader (maxFileSize : Nat) : DocumentReader :=
  ⟨⟨.ofText ['/', 'k'], maxFileSize, 1⟩, .standard, ⟨none⟩⟩

/-- Engines that open every PDF file and find these pages in it. -/
def finding (pages : List Page) : Engines := ⟨fun _ => .ok pages, fun _ => .ok []⟩

/-- Of four pages two have a text; of three pages the last two fail; and two octets are too few. -/
theorem parseFile_pdf_pages :
    let path : Path := ⟨.slash, [['k'], "b.PDF".toList]⟩
    pagedDisk.Sound ∧ Text.lower path.suffix = ".pdf".toList ∧ pagedDisk.size path = .ok 3 ∧
    ((pagedReader 3).sandbox.resolve pagedDisk (some "b.PDF".toList)).outcome = .ok path ∧
    ((pagedReader 3).parseFile (finding [.empty, .text ['x'], .text [' '], .text ['y', '\n']])
      pagedDisk (some "b.PDF".toList)).outcome = .ok ['x', '\n', 'y', '\n'] ∧
    (∃ fault, (pagedReader 3).parseFile (finding [.text ['x'], .failed ['e'], .failed ['f']])
        pagedDisk (some "b.PDF".toList) = ⟨[], .error fault⟩ ∧
      fault.failure? = some ⟨.fileOperation, "Failed to parse PDF: /k/b.PDF".toList,
        .record [("path".toList, .text "/k/b.PDF".toList), ("cause".toList, .text ['e'])]⟩) ∧
    ∀ engines, (pagedReader 2).parseFile engines pagedDisk (some "b.PDF".toList) =
      ⟨[], .error (.fileTooLarge "/k/b.PDF".toList 3 2)⟩ := by
  intro path
  have hsound : pagedDisk.Sound := ⟨by decide, by decide, by decide⟩
  have hsuffix : Text.lower path.suffix = ".pdf".toList := by cbv
  have hsize : pagedDisk.size path = .ok 3 := by cbv
  have htext : path.text = "/k/b.PDF".toList := by cbv
  have hresolve (maxFileSize : Nat) : ((pagedReader maxFileSize).sandbox.resolve pagedDisk
      (some "b.PDF".toList)).outcome = .ok path := by cbv
  have hread (maxFileSize : Nat) := parseFile_pdf (pagedReader maxFileSize) pagedDisk
    (some "b.PDF".toList) path hsound (Path.ofText_spelled ['/', 'k']) (hresolve maxFileSize) hsuffix
    3 hsize
  obtain ⟨pages, text, hpages, -, hfilled, hparse⟩ := ((hread 3).1 (Nat.le_refl 3)
    (finding [.empty, .text ['x'], .text [' '], .text ['y', '\n']])).1 rfl
  obtain ⟨fault, hfails, hfault⟩ := ((hread 3).1 (Nat.le_refl 3)
    (finding [.text ['x'], .failed ['e'], .failed ['f']])).2 ['e'] rfl
  refine ⟨hsound, hsuffix, hsize, hresolve 3, ?_, ⟨fault, hfails, ?_⟩, fun engines => ?_⟩
  · obtain rfl := Except.ok.inj hpages
    rw [hparse, hfilled]
    exact congrArg Except.ok (by decide)
  · rw [hfault, htext]
    rfl
  · rw [(hread 2).2 (by decide) engines, htext]
    rfl

end DocumentReader
end Quarry
