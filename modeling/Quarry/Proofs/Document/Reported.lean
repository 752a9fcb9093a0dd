import Quarry.Proofs.Document.Detected
import Quarry.Proofs.Json.Nesting
import Quarry.Proofs.Reported
import Quarry.Proofs.Sandbox.Admission

/-! Where reading a document ends with a fault that nobody is told of. This is where a null
character is met on the way to it, where its JSON nests too deeply, or where its markup is
refused. -/
namespace Quarry

namespace Records

/-- Some line of the content nests too deeply to be read. -/
def HoldsTooDeep (content : Text) : Prop :=
  ∃ line ∈ Text.lines content, Json.read (Text.strip line) = .error .tooDeep

variable (containersOnly : Bool) (content : Text)

theorem isTooDeep_ofText (line : Text) : (Line.ofText containersOnly line).isTooDeep = true ↔
    Json.read (Text.strip line) = .error .tooDeep := by
  rw [Line.ofText]
  by_cases hempty : (Text.strip line).isEmpty = true
  · have hread : Json.read (Text.strip line) = .error .malformed := by
      rw [List.isEmpty_iff.1 hempty]
      rfl
    simp [hempty, hread, Line.isTooDeep]
  · simp only [hempty, Bool.false_eq_true, if_false]
    cases hread : Json.read (Text.strip line) with
    | ok value =>
      dsimp only
      split
      · simp [Line.isTooDeep]
      · simp [Line.isTooDeep]
    | error error => cases error <;> simp [Line.isTooDeep]

theorem any_significant_iff :
    (significant containersOnly content).any Line.isTooDeep = true ↔ HoldsTooDeep content := by
  rw [significant, any_isTooDeep_filter, List.any_map, List.any_eq_true]
  constructor
  · rintro ⟨line, hline, hdeep⟩
    exact ⟨line, hline, (isTooDeep_ofText containersOnly line).1 hdeep⟩
  · rintro ⟨line, hline, hdeep⟩
    exact ⟨line, hline, (isTooDeep_ofText containersOnly line).2 hdeep⟩

theorem flatten_reported_iff (policy : Policy) :
    (flatten policy containersOnly content).Reported ↔ ¬HoldsTooDeep content := by
  have hflatten := flatten_outcome containersOnly content policy
  rw [all_outcome] at hflatten
  by_cases hdeep : (significant containersOnly content).any Line.isTooDeep = true
  · rw [if_pos hdeep] at hflatten
    have hholds := (any_significant_iff containersOnly content).1 hdeep
    exact iff_of_false (Traced.not_reported_of_error _ _ hflatten rfl) (not_not.2 hholds)
  · rw [if_neg hdeep] at hflatten
    have hholds : ¬HoldsTooDeep content := fun h =>
      hdeep ((any_significant_iff containersOnly content).2 h)
    exact iff_of_true (Traced.reported_of_ok _ _ hflatten) hholds

end Records

namespace Detector

/-- Content that no format is found for, because it nests too deeply: as a whole, or in the first
line of it that is not passed over. -/
inductive Undetected (detector : Detector) (path : Path) (content : Text) : Prop where
  | whole (hopen : ∀ format, Promise.ofPath path ≠ .settled format)
    (hdeep : detector.WholeTooDeep content)
  | line (hopen : ∀ format, Promise.ofPath path ≠ .settled format)
    (hvalue : ∀ value, ¬detector.Takes (.ofPath path) content value)
    (hfirst : (Records.significant (Promise.ofPath path).containersOnly content).head? =
      some .tooDeep)

variable (detector : Detector) (path : Path) (content : Text)

theorem classify_reported_iff :
    (detector.classify path content).Reported ↔ ¬detector.Undetected path content := by
  by_cases hsettled : ∃ format, Promise.ofPath path = .settled format
  · obtain ⟨format, hformat⟩ := hsettled
    have hnot : ¬detector.Undetected path content := by
      rintro (⟨hopen, -⟩ | ⟨hopen, -, -⟩)
      · exact hopen format hformat
      · exact hopen format hformat
    rw [classify, hformat]
    exact iff_of_true (Traced.reported_pure _) hnot
  have hopen : ∀ format, Promise.ofPath path ≠ .settled format := not_exists.1 hsettled
  by_cases hvalue : ∃ value, detector.Takes (.ofPath path) content value
  · obtain ⟨value, htakes⟩ := hvalue
    have hread := htakes.2.1
    have hnot : ¬detector.Undetected path content := by
      rintro (⟨-, hdeep⟩ | ⟨-, hvalue, -⟩)
      · exact absurd (hread.symm.trans hdeep.2) (by simp)
      · exact hvalue value htakes
    exact iff_of_true
      (Traced.reported_of_ok _ _ (classifyAs_of_takes detector _ content hopen value htakes)) hnot
  by_cases hdeep : detector.WholeTooDeep content
  · have hfault := classifyAs_of_tooDeep detector _ content hopen hdeep
    exact iff_of_false (Traced.not_reported_of_error _ _ hfault rfl)
      (not_not.2 (.whole hopen hdeep))
  have hneither := classifyAs_of_neither detector _ content hopen (not_exists.1 hvalue) hdeep
  have hiff : detector.Undetected path content ↔
      (Records.significant (Promise.ofPath path).containersOnly content).head? =
        some .tooDeep := by
    constructor
    · rintro (⟨-, hwhole⟩ | ⟨-, -, hfirst⟩)
      · exact absurd hwhole hdeep
      · exact hfirst
    · exact .line hopen (not_exists.1 hvalue)
  rw [hiff, classify]
  cases hlines : Records.significant (Promise.ofPath path).containersOnly content with
  | nil =>
    rw [hlines] at hneither
    exact iff_of_true (Traced.reported_of_ok _ _ hneither) (by simp)
  | cons line others =>
    rw [hlines] at hneither
    dsimp only at hneither
    cases line with
    | tooDeep =>
      exact iff_of_false (Traced.not_reported_of_error _ _ hneither rfl) (by simp)
    | blank | malformed | ignored | record value =>
      exact iff_of_true (Traced.reported_of_ok _ _ hneither) (by simp)

end Detector

namespace Sandbox

/-- On the way to the base, or from there to what is requested, a name holds a null character. -/
def MeetsNul (sandbox : Sandbox) (disk : Disk) (requested : Option Text) : Prop :=
  ∃ text, requested = some text ∧ Text.isBlank text = false ∧
    (disk.destination sandbox.base = .nulCharacter ∨
      ∃ base, canonical disk sandbox.base = .ok base ∧
        disk.destination (base.join (.ofText text)) = .nulCharacter)

theorem canonical_reported_iff (disk : Disk) (path : Path) :
    (Traced.ofExcept (canonical disk path)).Reported ↔
      disk.destination path ≠ .nulCharacter := by
  have hnul : disk.resolve path = .error .nulCharacter ↔
      disk.destination path = .nulCharacter := by
    rw [Disk.resolve_eq]
    cases disk.destination path with
    | nulCharacter => simp
    | location location => simp
    | circle rest =>
      dsimp only
      split
      · simp
      · simp
  rw [ne_eq, ← hnul]
  cases hresolve : disk.resolve path with
  | ok resolved =>
    have hcanonical : (Traced.ofExcept (canonical disk path)).outcome = .ok resolved :=
      (canonical_eq_ok disk path resolved).2 hresolve
    exact iff_of_true (Traced.reported_of_ok _ _ hcanonical) (by simp)
  | error error =>
    cases error with
    | nulCharacter =>
      have hcanonical : (Traced.ofExcept (canonical disk path)).outcome = .error .nulInPath := by
        simp [canonical, hresolve]
      exact iff_of_false (Traced.not_reported_of_error _ _ hcanonical rfl) (by simp)
    | circle =>
      have hcanonical : (Traced.ofExcept (canonical disk path)).outcome =
          .error (.unresolvable path.text) := by
        simp [canonical, hresolve]
      exact iff_of_true ((Traced.reported_of_error _ _ hcanonical).2 ⟨_, rfl, Or.inl rfl⟩) (by simp)

section

variable (sandbox : Sandbox) (disk : Disk) (hd : disk.Sound) (requested : Option Text)

theorem resolve_reported_iff :
    (sandbox.resolve disk requested).Reported ↔ ¬sandbox.MeetsNul disk requested := by
  cases requested with
  | none =>
    refine iff_of_true ?_ (by simp [MeetsNul])
    exact (Traced.reported_of_error _ .emptyPath rfl).2 ⟨_, rfl, Or.inl rfl⟩
  | some text =>
    by_cases hblank : Text.isBlank text = true
    · have hresolve : (sandbox.resolve disk (some text)).outcome = .error .emptyPath := by
        simp [resolve, hblank]
      refine iff_of_true ?_ (by simp [MeetsNul, hblank])
      exact (Traced.reported_of_error _ _ hresolve).2 ⟨_, rfl, Or.inl rfl⟩
    -- A path that is not within the base is reported, so only its resolution counts.
    have hwithin (base path : Path) :
        (if path.isWithin base then pure path
          else Traced.report .warning .sandbox ("Rejected path outside base dir: ".toList ++ text)
            >>= fun _ => Traced.fail (.outsideBase text base.text) : Traced Path).Reported := by
      split
      · exact Traced.reported_pure path
      · rw [Traced.reported_bind_of_ok _ _ () rfl]
        exact (Traced.reported_of_error _ _ rfl).2 ⟨_, rfl, Or.inl rfl⟩
    rw [resolve, if_neg hblank, Traced.reported_bind_iff, canonical_reported_iff]
    simp only [Traced.reported_bind_iff, canonical_reported_iff, hwithin, implies_true, and_true,
      Traced.outcome_ofExcept]
    simp only [MeetsNul, Option.some.injEq, exists_eq_left', Bool.eq_false_iff.2 hblank, true_and,
      not_or, not_exists, not_and, ne_eq]

include hd in
theorem check_reported_iff (hb : sandbox.base.Spelled) :
    (sandbox.check disk requested).Reported ↔ ¬sandbox.MeetsNul disk requested := by
  rw [check, Traced.reported_bind_iff, resolve_reported_iff, and_iff_left_iff_imp]
  intro _ path hpath
  have hnul := holdsNul_of_resolve sandbox disk requested path hpath hd hb
  rw [Traced.reported_bind_iff]
  refine ⟨fun fault hfault => ?_, fun _ _ => Traced.reported_pure path⟩
  rw [Traced.outcome_ofExcept, checkSize, if_neg (by simp [hnul])] at hfault
  split at hfault
  · exact Except.error.inj hfault ▸ ⟨_, rfl, Or.inr rfl⟩
  · exact Except.error.inj hfault ▸ ⟨_, rfl, Or.inr rfl⟩
  · split at hfault
    · exact Except.error.inj hfault ▸ ⟨_, rfl, Or.inl rfl⟩
    · cases hfault

end

/-- A null character that is met stands in the spelling of the base, in the requested path or in
the target of a link. -/
theorem meetsNul_holds (disk : Disk) (hd : disk.Sound) (spelling : Text) (limit : Nat)
    (requested : Option Text) (h : MeetsNul ⟨.ofText spelling, limit⟩ disk requested) :
    Char.ofNat 0 ∈ spelling ∨ (∃ text, requested = some text ∧ Char.ofNat 0 ∈ text) ∨
      ∃ location target, disk.link? location = some target ∧ Char.ofNat 0 ∈ target := by
  have hsegments (path : Path) (h : disk.destination path = .nulCharacter) :
      (∃ name ∈ path.names, Char.ofNat 0 ∈ name) ∨
        ∃ location target, disk.link? location = some target ∧ Char.ofNat 0 ∈ target := by
    refine (Disk.follow_nul disk _ _ _ _ h).imp_left ?_
    rintro ⟨name, hname, hnul⟩
    exact ⟨name, by simpa using hname, hnul⟩
  obtain ⟨text, rfl, -, hbase | ⟨base, hbase, hpath⟩⟩ := h
  · rcases hsegments _ hbase with ⟨name, hname, hnul⟩ | hlink
    · exact Or.inl (Path.mem_of_mem_ofText spelling name _ hname hnul)
    · exact Or.inr (Or.inr hlink)
  · right
    rcases hsegments _ hpath with ⟨name, hname, hnul⟩ | hlink
    · left
      refine ⟨text, rfl, ?_⟩
      have hnames := canonical_noNul disk hd _ base (Path.ofText_spelled spelling) hbase
      unfold Path.join at hname
      split at hname
      · exact Path.mem_of_mem_ofText text name _ hname hnul
      · rcases List.mem_append.1 hname with hname | hname
        · exact absurd hnul (hnames name hname)
        · exact Path.mem_of_mem_ofText text name _ hname hnul
    · exact Or.inr hlink

end Sandbox

namespace DocumentReader

/-- Text that parsing does not come through: markup that is refused, or JSON that nests too deeply,
as a whole or in one of its lines where it is read by lines. -/
inductive Unread (reader : DocumentReader) (path : Path) (content : Text) : Prop where
  | markup (refusal : Markup.Refusal) (hformat : Promise.ofPath path = .settled .html)
    (hrefused : Markup.tokens content = .error refusal)
  | whole (hopen : ∀ format, Promise.ofPath path ≠ .settled format)
    (hsize : Promise.ofPath path = .document → content.length ≤ reader.settings.maxJsonSize)
    (hdeep : reader.detector.WholeTooDeep content)
  | line (hopen : ∀ format, Promise.ofPath path ≠ .settled format)
    (hsize : Promise.ofPath path = .document → content.length ≤ reader.settings.maxJsonSize)
    (hvalue : ∀ value, reader.detector.Takes (.ofPath path) content value →
      Detector.taken (.ofPath path) content value = .plain .jsonLines)
    (hline : Records.HoldsTooDeep content)

variable (reader : DocumentReader) (path : Path) (content : Text)

theorem textOf_reported_iff (detected : Detected) :
    (reader.textOf path content detected).Reported ↔
      (detected = .plain .html → ∃ shown, Markup.tokens content = .ok shown) ∧
        (detected = .plain .jsonLines → ¬Records.HoldsTooDeep content) := by
  cases detected with
  | document value => exact iff_of_true (Traced.reported_pure _) (by simp)
  | plain format =>
    rw [textOf, Traced.reported_bind_of_ok _ _ () (logFallback_outcome path)]
    cases format with
    | jsonLines =>
      rw [render, Records.flatten_reported_iff]
      simp
    | html =>
      cases htokens : Markup.tokens content with
      | ok tokens =>
        have hrender : (reader.render .html path content).outcome =
            .ok (Markup.shownText (Markup.textNodes tokens)) := by
          simp [render, Markup.visibleText, htokens, Except.map, Except.mapError]
        exact iff_of_true (Traced.reported_of_ok _ _ hrender) (by simp)
      | error refusal =>
        have hrender : (reader.render .html path content).outcome =
            .error (.refusedMarkup refusal) := by
          simp [render, Markup.visibleText, htokens, Except.map, Except.mapError]
        exact iff_of_false (Traced.not_reported_of_error _ _ hrender rfl) (by simp)
    | text | markdown | pdf | docx | json => exact iff_of_true (Traced.reported_pure _) (by simp)

theorem holdsTooDeep_of_head (containersOnly : Bool)
    (h : (Records.significant containersOnly content).head? = some .tooDeep) :
    Records.HoldsTooDeep content := by
  rw [← Records.any_significant_iff containersOnly, List.any_eq_true]
  exact ⟨.tooDeep, List.mem_of_mem_head? h, rfl⟩

/-- Content that nests too deeply in a line is read by lines, if it is read at all. -/
theorem classify_of_line (hopen : ∀ format, Promise.ofPath path ≠ .settled format)
    (hvalue : ∀ value, reader.detector.Takes (.ofPath path) content value →
      Detector.taken (.ofPath path) content value = .plain .jsonLines)
    (hline : Records.HoldsTooDeep content) :
    reader.detector.Undetected path content ∨
      (reader.detector.classify path content).outcome = .ok (.plain .jsonLines) := by
  by_cases htakes : ∃ value, reader.detector.Takes (.ofPath path) content value
  · obtain ⟨value, htakes⟩ := htakes
    right
    rw [← hvalue value htakes]
    exact Detector.classifyAs_of_takes _ _ content hopen value htakes
  by_cases hdeep : reader.detector.WholeTooDeep content
  · exact Or.inl (.whole hopen hdeep)
  have hneither :=
    Detector.classifyAs_of_neither _ _ content hopen (not_exists.1 htakes) hdeep
  have hany := (Records.any_significant_iff (Promise.ofPath path).containersOnly content).2 hline
  cases hlines : Records.significant (Promise.ofPath path).containersOnly content with
  | nil =>
    rw [hlines] at hany
    cases hany
  | cons line others =>
    rw [hlines] at hneither
    cases line with
    | tooDeep => exact Or.inl (.line hopen (not_exists.1 htakes) (by rw [hlines]; rfl))
    | blank | malformed | ignored | record value => exact Or.inr hneither

/-- Content that is not too long stops parsing where its format is looked for, or where it is read
in the format that is found. -/
theorem unread_iff (hsize : Promise.ofPath path = .document →
      content.length ≤ reader.settings.maxJsonSize) :
    reader.Unread path content ↔ reader.detector.Undetected path content ∨
      ∃ detected, (reader.detector.classify path content).outcome = .ok detected ∧
        ¬(reader.textOf path content detected).Reported := by
  simp only [textOf_reported_iff]
  constructor
  · rintro (⟨refusal, hformat, hrefused⟩ | ⟨hopen, -, hdeep⟩ | ⟨hopen, -, hvalue, hline⟩)
    · refine Or.inr ⟨.plain .html, (Detector.classifyAs_eq_html_iff _ _ _).2 hformat, ?_⟩
      simp [hrefused]
    · exact Or.inl (.whole hopen hdeep)
    · refine (classify_of_line reader path content hopen hvalue hline).imp_right fun hclassify => ?_
      exact ⟨.plain .jsonLines, hclassify, fun htext => htext.2 rfl hline⟩
  · rintro ((⟨hopen, hdeep⟩ | ⟨hopen, hvalue, hfirst⟩) | ⟨detected, hclassify, htext⟩)
    · exact .whole hopen hsize hdeep
    · exact .line hopen hsize (fun value htakes => absurd htakes (hvalue value))
        (holdsTooDeep_of_head content _ hfirst)
    rcases not_and_or.1 htext with hshown | hline
    · obtain ⟨rfl, hnone⟩ := Classical.not_imp.1 hshown
      have hformat := (Detector.classifyAs_eq_html_iff _ _ _).1 hclassify
      cases htokens : Markup.tokens content with
      | ok tokens => exact absurd ⟨tokens, htokens⟩ hnone
      | error refusal => exact .markup refusal hformat htokens
    · obtain ⟨rfl, hdeep⟩ := Classical.not_imp.1 hline
      have hpromise : Promise.ofPath path ≠ .settled .jsonLines := fun hsettled => by
        simpa using Promise.settled_cases path _ hsettled
      obtain ⟨hopen, hvalue⟩ := Detector.taken_of_jsonLines _ _ _ hpromise hclassify
      exact .line hopen hsize hvalue (not_not.1 hdeep)

theorem parseText_reported_iff :
    (reader.parseText path content).Reported ↔ ¬reader.Unread path content := by
  rw [parseText_eq]
  by_cases hsize : Promise.ofPath path = .document → content.length ≤ reader.settings.maxJsonSize
  · have hchecked : (reader.checkContentSize path content).outcome = .ok () := by
      rw [checkContentSize, if_neg (by simpa using hsize)]
      rfl
    have hlogged (detected : Detected) (text : Text) :
        (logParsed detected.format path.text text [] >>= fun _ => pure text).Reported := by
      rw [Traced.reported_bind_of_ok _ _ () rfl]
      exact Traced.reported_pure text
    rw [Traced.reported_bind_of_ok _ _ () hchecked, Traced.reported_bind_iff,
      Detector.classify_reported_iff, unread_iff reader path content hsize]
    simp only [Traced.reported_bind_iff, hlogged, implies_true, and_true, not_or, not_exists,
      not_and, not_not]
  -- JSON that is too long is reported before it is read.
  · have hchecked : (reader.checkContentSize path content).outcome =
        .error (.contentTooLarge path.text content.length reader.settings.maxJsonSize) := by
      rw [checkContentSize, if_pos (by simpa using hsize)]
      rfl
    have herror := Traced.outcome_bind_error _ (fun _ =>
      reader.detector.classify path content >>= fun detected =>
        reader.textOf path content detected >>= fun text =>
          logParsed detected.format path.text text [] >>= fun _ => pure text) _ hchecked
    refine iff_of_true ((Traced.reported_of_error _ _ herror).2 ⟨_, rfl, Or.inl rfl⟩) ?_
    rintro (⟨refusal, hformat, -⟩ | ⟨-, hsize', -⟩ | ⟨-, hsize', -, -⟩)
    · exact hsize fun hdocument => by simp [hformat] at hdocument
    · exact hsize hsize'
    · exact hsize hsize'

theorem settled_of_isBinary (h : (Promise.ofPath path).format.isBinary = true) :
    Promise.ofPath path = .settled .pdf ∨ Promise.ofPath path = .settled .docx := by
  cases hpromise : Promise.ofPath path with
  | settled format =>
    rw [hpromise] at h
    rcases Promise.settled_cases path format hpromise with rfl | rfl | rfl | rfl
    · exact Or.inr rfl
    · cases h
    · cases h
    · exact Or.inl rfl
  | document | stream | anything =>
    rw [hpromise] at h
    cases h

theorem not_unread_of_isBinary (h : (Promise.ofPath path).format.isBinary = true) :
    ¬reader.Unread path content := by
  have hsettled := settled_of_isBinary path h
  rintro (⟨refusal, hformat, -⟩ | ⟨hopen, -, -⟩ | ⟨hopen, -, -, -⟩)
  · simp [hformat] at hsettled
  · exact hsettled.elim (hopen _) (hopen _)
  · exact hsettled.elim (hopen _) (hopen _)

theorem not_undetected_of_isBinary (h : (Promise.ofPath path).format.isBinary = true) :
    ¬reader.detector.Undetected path content := by
  have hsettled := settled_of_isBinary path h
  rintro (⟨hopen, -⟩ | ⟨hopen, -, -⟩)
  · exact hsettled.elim (hopen _) (hopen _)
  · exact hsettled.elim (hopen _) (hopen _)

theorem parseContent_reported_iff :
    (reader.parseContent content path).Reported ↔
      ¬reader.Unread path (Text.withoutMark content) := by
  rw [parseContent]
  by_cases hbinary : (Promise.ofPath path).format.isBinary = true
  · rw [if_pos hbinary]
    refine iff_of_true ?_ (not_unread_of_isBinary reader path _ hbinary)
    exact (Traced.reported_of_error _ _ rfl).2 ⟨_, rfl, Or.inl rfl⟩
  · rw [if_neg hbinary, parseText_reported_iff]

section

variable (hpromise : Promise.ofPath path = .anything) (n : Nat) (hn : Json.depthLimit ≤ n)
  (hadmits : reader.detector.admits (List.replicate n '[') = true)

theorem withoutMark_brackets : Text.withoutMark (List.replicate n '[') = List.replicate n '[' := by
  cases n with
  | zero => rfl
  | succ n => rfl

include hn hadmits in
theorem wholeTooDeep_brackets : reader.detector.WholeTooDeep (List.replicate n '[') := by
  have h := Json.read_brackets n [] hn
  rw [List.append_nil] at h
  exact ⟨hadmits, h⟩

include hpromise hn hadmits

theorem unread_brackets : reader.Unread path (List.replicate n '[') := by
  have hwhole := wholeTooDeep_brackets reader n hn hadmits
  refine .whole (fun format h => ?_) (fun h => ?_) hwhole
  · rw [hpromise] at h
    cases h
  · rw [hpromise] at h
    cases h

/-- Left brackets as prose, which may be one document, nest too deeply if there are enough. -/
theorem parseContent_brackets :
    (reader.parseContent (List.replicate n '[') path).outcome = .error .nestedTooDeeply := by
  have hclassify := Detector.classifyAs_of_tooDeep reader.detector (.ofPath path)
    (List.replicate n '[') (by simp [hpromise]) (wholeTooDeep_brackets reader n hn hadmits)
  rw [parseContent, if_neg (by simp [hpromise, Promise.format, Format.isBinary]),
    withoutMark_brackets, parseText_eq, checkContentSize, if_neg (by simp [hpromise]),
    Traced.pure_bind]
  exact Traced.outcome_bind_error _ _ _ hclassify

end

theorem parseBinary_reported (engines : Engines) (disk : Disk) (format : Format) :
    (parseBinary engines disk format path).Reported := by
  unfold parseBinary
  dsimp only
  split
  · exact (Traced.reported_of_error _ _ rfl).2 ⟨_, rfl, Or.inr rfl⟩
  · exact Traced.reported_of_ok _ _ rfl

theorem readText_reported (disk : Disk) : (readText disk path).Reported := by
  unfold readText
  split
  · exact Traced.reported_pure _
  · exact (Traced.reported_of_error _ _ rfl).2 ⟨_, rfl, Or.inr rfl⟩

theorem readText_eq_ok (disk : Disk) :
    (readText disk path).outcome = .ok content ↔ disk.readText path = .ok content := by
  unfold readText
  cases disk.readText path with
  | ok found => simp
  | error error => simp

section

variable (disk : Disk) (requested : Option Text)

/-- Parsing a file stops with a fault that nobody is told of: on the way to it, or in its text. -/
def ParsingStops : Prop :=
  reader.sandbox.MeetsNul disk requested ∨
    ∃ path, (reader.sandbox.check disk requested).outcome = .ok path ∧
      ∃ content, disk.readText path = .ok content ∧ reader.Unread path content

/-- Finding the format of a file stops with a fault that nobody is told of. -/
def DetectionStops : Prop :=
  reader.sandbox.MeetsNul disk requested ∨
    ∃ path, (reader.sandbox.check disk requested).outcome = .ok path ∧
      ∃ content, disk.readText path = .ok content ∧ reader.detector.Undetected path content

variable (engines : Engines) (hd : disk.Sound) (hb : reader.sandbox.base.Spelled)

include hd hb

theorem parseFile_reported_iff : (reader.parseFile engines disk requested).Reported ↔
    ¬reader.ParsingStops disk requested := by
  have hbehind (path : Path) : (if (Promise.ofPath path).format.isBinary then
      parseBinary engines disk (Promise.ofPath path).format path
      else readText disk path >>= reader.parseText path).Reported ↔
        ∀ content, disk.readText path = .ok content → ¬reader.Unread path content := by
    by_cases hbinary : (Promise.ofPath path).format.isBinary = true
    · rw [if_pos hbinary]
      -- A suffix of a binary format settles it, so there is no text to stop at.
      exact iff_of_true (parseBinary_reported path engines disk _)
        fun content _ => not_unread_of_isBinary reader path content hbinary
    · rw [if_neg hbinary, Traced.reported_bind_iff]
      simp only [readText_reported, true_and, readText_eq_ok, parseText_reported_iff]
  rw [parseFile, Traced.reported_bind_iff,
    Sandbox.check_reported_iff reader.sandbox disk hd requested hb]
  simp only [hbehind, ParsingStops, not_or, not_exists, not_and]

theorem detectFile_reported_iff : (reader.detectFile disk requested).Reported ↔
    ¬reader.DetectionStops disk requested := by
  have hbehind (path : Path) : (if (Promise.ofPath path).format.isBinary then
      pure (Promise.ofPath path).format
      else readText disk path >>= fun content =>
        reader.detector.detect path (some content) : Traced Format).Reported ↔
        ∀ content, disk.readText path = .ok content →
          ¬reader.detector.Undetected path content := by
    by_cases hbinary : (Promise.ofPath path).format.isBinary = true
    · rw [if_pos hbinary]
      exact iff_of_true (Traced.reported_pure _)
        fun content _ => not_undetected_of_isBinary reader path content hbinary
    · rw [if_neg hbinary, Traced.reported_bind_iff]
      simp only [readText_reported, true_and, readText_eq_ok, Detector.detect,
        Traced.reported_bind_iff, Detector.classify_reported_iff, Traced.reported_pure,
        implies_true, and_true]
  rw [detectFile, Traced.reported_bind_iff,
    Sandbox.check_reported_iff reader.sandbox disk hd requested hb]
  simp only [hbehind, DetectionStops, not_or, not_exists, not_and]

end

end DocumentReader
end Quarry
