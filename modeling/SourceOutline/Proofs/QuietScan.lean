import SourceOutline.Proofs.Installer
import SourceOutline.Proofs.Operations

/-!
# What a quiet scan shows

The command line keeps quiet about what it does itself: the announcement of a scan and the lines
after it. The survey does not know of the option, and shows its progress all the same
(`CommandLine.scan_apply`). As a survey always starts with two lines about itself, a quiet scan of a
folder never shows the result alone (`CommandLine.quiet_scan_shows`).
-/

namespace SourceOutline

/-! ## The survey -/

theorem Survey.keeps_run (repository : Path) (f : LanguageFilter) (limit budget : Option Int) :
    Run.Keeps (fun s => s.world.disk) (Survey.run repository f limit budget) := by
  have hlooks {α : Type} {c : Run α} (h : Run.Extracts c) :
      Run.Keeps (fun s => s.world.disk) c :=
    fun s => congrArg (fun situation => situation.1.disk) (h.keeps s)
  refine (hlooks (Run.looks_say _ (by exact .ofList rfl)).mono).bind fun _ => ?_
  refine (hlooks (Discovery.looks_scan ..).mono).bind fun scan => ?_
  refine Run.Keeps.bind (fun s => ?_) fun languages => hlooks (extracts_sumUp ..)
  exact congrArg Prod.fst ((Support.installs_offer repository).keeps s)

/-- The first lines that a survey shows. -/
def Survey.opening (repository : Path) : List Notice :=
  [.line "Processing repository with fancy_tree...",
    .line ("Scanning repository: " ++ repository.text)]

theorem Survey.opening_isPrefix_shownBy (repository : Path) (f : LanguageFilter)
    (limit budget : Option Int) {s : Session} (hs : s.Lenient) :
    opening repository <+: (Survey.run repository f limit budget).shownBy s := by
  obtain ⟨rest, hrest, hscan, -⟩ := Discovery.exists_scan_rest f limit false
  rw [Run.shownBy, Survey.run, bind_of_ok (Run.say_apply _ (s := s.hushed) hs)]
  refine List.IsPrefix.trans ?_
    (Run.MadeOf.precedes_bind (works_finish repository budget) _).notices
  rw [hscan]
  let started := s.hushed.shows [.line "Processing repository with fancy_tree..."]
  have hsaid := Run.MadeOf.precedes_bind
    (x := Run.say ("Scanning repository: " ++ repository.text))
    (fun _ => hrest repository) started
  rw [Run.say_apply _ (s := started) hs] at hsaid
  exact hsaid.notices

/-! ## The command line -/

namespace CommandLine

/-- The survey that a scan asks for. -/
def ScanRequest.survey (request : ScanRequest) (path : Path) : Run Summary :=
  Survey.run path (.names request.languages) (some request.maxFiles) (some request.maxLines)

theorem ScanRequest.accumulates_survey (request : ScanRequest) (path : Path) :
    Run.Accumulates (request.survey path) :=
  (Survey.works_run path _ _ _).accumulates

theorem ScanRequest.keeps_survey (request : ScanRequest) (path : Path) :
    Run.Keeps (fun s => s.world.disk) (request.survey path) :=
  Survey.keeps_run path _ _ _

/-- The result of a scan as a text. -/
def ScanRequest.content (request : ScanRequest) (summary : Summary) : String :=
  if request.json then summary.renderAscii else summary.outline false

/-- What comes of a scan when its result is written to the file that it asks for. -/
def ScanRequest.delivered (request : ScanRequest) (disk : Disk) (outcome : Except Fault Summary) :
    Except Fault Summary := do
  let summary ← outcome
  match request.output with
  | none => .ok summary
  | some file => do
    discard ((disk.write file (request.content summary).toUTF8).mapError Fault.disk)
    .ok summary

/-- What a scan shows in the end: the result, unless it is written to a file, or else what went
wrong. -/
def ScanRequest.ending (request : ScanRequest) : Except Fault Summary → List Notice
  | .ok summary =>
    match request.output with
    | none => [.line (request.content summary)]
    | some _ => []
  | .error fault => [.styled ("Error processing repository: " ++ fault.message) red]

/-- The exit code of a scan. -/
def exitCode : Except Fault Summary → Option Int
  | .ok _ => none
  | .error _ => some 1

/-- What a scan shows beforehand, unless it is quiet. -/
def ScanRequest.announcement (request : ScanRequest) (path : Path) : List Notice :=
  if request.quiet then [] else
    .line ("Scanning repository: " ++ path.text) ::
      ((if request.languages.isEmpty then [] else
        [.line ("Language filter: " ++ String.intercalate ", " request.languages)]) ++
      if request.maxFiles = 0 then [] else
        [.line ("Max files: " ++ toString request.maxFiles)])

/-- What a scan shows afterwards, unless it is quiet. -/
def ScanRequest.closing (request : ScanRequest) (delivered : Except Fault Summary) : List Notice :=
  if request.quiet then [] else
    match delivered with
    | .ok summary =>
      (match request.output with
        | none => []
        | some file => [.line ("Results written to: " ++ file.text)]) ++
      [.line ("\nProcessed " ++ toString summary.totalFiles ++ " files in " ++
        toString summary.languages.length ++ " languages")]
    | .error _ => [.trace]

section Scan

variable {request : ScanRequest} {path : Path} {s : Session}

theorem announce_apply (request : ScanRequest) (path : Path) (hs : s.Lenient) :
    announce request path s = (.ok (), s.shows (request.announcement path)) := by
  have hlimit {s : Session} (hs : s.Lenient) :
      (if request.maxFiles ≠ 0 then Run.say ("Max files: " ++ toString request.maxFiles)
        else pure () : Run Unit) s = (.ok (), s.shows (if request.maxFiles = 0 then [] else
          [.line ("Max files: " ++ toString request.maxFiles)])) := by
    by_cases hnone : request.maxFiles = 0
    · rw [if_neg (not_not_intro hnone), if_pos hnone, s.shows_nil]
      rfl
    · rw [if_pos hnone, if_neg hnone]
      exact Run.say_apply _ hs
  rw [announce, ScanRequest.announcement]
  cases request.quiet with
  | true => exact congrArg (Prod.mk _) s.shows_nil.symm
  | false =>
    rw [if_pos Bool.not_false, if_neg Bool.false_ne_true, bind_of_ok (Run.say_apply _ hs)]
    cases request.languages.isEmpty with
    | true =>
      refine (hlimit (s := s.shows _) hs).trans ?_
      rw [Session.shows_shows]
      rfl
    | false =>
      refine (bind_of_ok (Run.say_apply _ (s := s.shows _) hs)).trans ?_
      rw [Session.shows_shows]
      refine (hlimit (s := s.shows _) hs).trans ?_
      rw [Session.shows_shows]
      rfl

theorem hasEntry_of_hasFolder {disk : Disk} (h : disk.hasFolder path = .ok true) :
    disk.hasEntry path = .ok true := by
  obtain ⟨entry, hentry, hfolder⟩ := except_map_eq_ok.1 h
  rw [Disk.hasEntry, hentry]
  cases entry with
  | none => cases hfolder
  | some entry => rfl

/-- A line that is left out when the scan is quiet. -/
theorem tell_apply (quiet : Bool) (text : String) (hs : s.Lenient) :
    (if !quiet then Run.say text else pure () : Run Unit) s =
      (.ok (), s.shows (if quiet then [] else [.line text])) := by
  cases quiet with
  | true => exact congrArg (Prod.mk _) s.shows_nil.symm
  | false => exact Run.say_apply text hs

theorem deliver_of_shown (houtput : request.output = none) (content : String) (hs : s.Lenient) :
    deliver request content s = (.ok (), s.shows [.line content]) := by
  rw [deliver, houtput]
  exact Run.say_apply content hs

theorem deliver_of_unwritten {file : Path} {content : String} {reason : DiskFault}
    (houtput : request.output = some file)
    (hwrite : s.world.disk.write file content.toUTF8 = .error reason) :
    deliver request content s = (.error (.disk reason), s) := by
  have hdisk : Run.onDisk (·.write file content.toUTF8) s = (.error (.disk reason), s) := by
    rw [Run.onDisk_apply, hwrite]
    rfl
  rw [deliver, houtput]
  exact bind_of_error (bind_of_error hdisk)

theorem deliver_of_written {file : Path} {content : String} {disk : Disk} (hs : s.Lenient)
    (houtput : request.output = some file)
    (hwrite : s.world.disk.write file content.toUTF8 = .ok disk) :
    deliver request content s = (.ok (), Session.shows
      { s with world := { s.world with disk } }
      (if request.quiet then [] else [.line ("Results written to: " ++ file.text)])) := by
  have hdisk : Run.onDisk (·.write file content.toUTF8) s = (.ok disk, s) := by
    rw [Run.onDisk_apply, hwrite]
    rfl
  have hstore : Run.store file content s =
      (.ok (), { s with world := { s.world with disk } }) := by
    rw [Run.store, bind_of_ok hdisk]
    rfl
  rw [deliver, houtput]
  exact (bind_of_ok hstore).trans (tell_apply _ _ hs)

section Delivered

variable {disk : Disk} {summary : Summary}

theorem delivered_of_shown (houtput : request.output = none) :
    request.delivered disk (.ok summary) = .ok summary := by
  unfold ScanRequest.delivered
  rw [houtput]
  rfl

theorem delivered_of_unwritten {file : Path} {reason : DiskFault}
    (houtput : request.output = some file)
    (hwrite : disk.write file (request.content summary).toUTF8 = .error reason) :
    request.delivered disk (.ok summary) = .error (.disk reason) := by
  unfold ScanRequest.delivered
  rw [houtput]
  change ((disk.write file (request.content summary).toUTF8).mapError Fault.disk >>= _) >>= _ = _
  rw [hwrite]
  rfl

theorem delivered_of_written {file : Path} {written : Disk}
    (houtput : request.output = some file)
    (hwrite : disk.write file (request.content summary).toUTF8 = .ok written) :
    request.delivered disk (.ok summary) = .ok summary := by
  unfold ScanRequest.delivered
  rw [houtput]
  change ((disk.write file (request.content summary).toUTF8).mapError Fault.disk >>= _) >>= _ = _
  rw [hwrite]
  rfl

end Delivered

/-- The survey is followed by its result, and by nothing when that cannot be had or delivered. -/
theorem surveyAndDeliver_apply (request : ScanRequest) (path : Path) (hs : s.Lenient) :
    let delivered := request.delivered s.world.disk (request.survey path s).1
    ∃ t, surveyAndDeliver request path s = (delivered.map fun _ => (), t) ∧
      t.notices = s.notices ++ (request.survey path).shownBy s ++
        if delivered.isOk then request.ending delivered ++ request.closing delivered else [] := by
  have hnotices := (request.accumulates_survey path).notices_eq s
  rw [surveyAndDeliver]
  rcases hsurvey : request.survey path s with ⟨fault | summary, r⟩
  · rw [hsurvey] at hnotices
    exact ⟨r, bind_of_error hsurvey, hnotices.trans (List.append_nil _).symm⟩
  · rw [hsurvey] at hnotices
    have hdisk : r.world.disk = s.world.disk := (request.keeps_survey path).of_eq hsurvey
    have hr : r.Lenient := ((Survey.works_run path _ _ _).keeps_console.of_eq hsurvey).trans hs
    have hclosing {t : Session} (ht : t.Lenient) (shown : List Notice) :=
      tell_apply (s := t.shows shown) request.quiet
        ("\nProcessed " ++ toString summary.totalFiles ++ " files in " ++
          toString summary.languages.length ++ " languages") ht
    have hrun : Survey.run path (.names request.languages) (some request.maxFiles)
        (some request.maxLines) s = (.ok summary, r) := hsurvey
    rw [bind_of_ok hrun, ← hnotices]
    dsimp only
    cases houtput : request.output with
    | none =>
      have hshown := deliver_of_shown houtput (request.content summary) hr
      rw [delivered_of_shown houtput]
      refine ⟨_, (bind_of_ok hshown).trans (hclosing hr _), ?_⟩
      rw [Session.shows_shows, ScanRequest.ending, ScanRequest.closing, houtput]
      cases request.quiet with
      | true => rfl
      | false => rfl
    | some file =>
      cases hwrite : r.world.disk.write file (request.content summary).toUTF8 with
      | error reason =>
        have hdelivered := delivered_of_unwritten houtput (hdisk ▸ hwrite)
        rw [hdelivered]
        exact ⟨r, bind_of_error (deliver_of_unwritten houtput hwrite), (List.append_nil _).symm⟩
      | ok written =>
        have hdelivered := delivered_of_written houtput (hdisk ▸ hwrite)
        rw [hdelivered]
        refine ⟨_, (bind_of_ok (deliver_of_written hr houtput hwrite)).trans
          (hclosing (t := { r with world := { r.world with disk := written } }) hr _), ?_⟩
        rw [Session.shows_shows, ScanRequest.ending, ScanRequest.closing, houtput]
        cases request.quiet with
        | true => rfl
        | false => rfl

/-- What a scan of a folder shows: its announcement, the progress of the survey, the result, and
what it tells afterwards. -/
theorem scan_apply (request : ScanRequest) {delivered : Except Fault Summary} (hs : s.Lenient)
    (hpath : request.path.getD s.world.disk.here = path)
    (hfolder : s.world.disk.hasFolder path = .ok true)
    (hdelivered : request.delivered s.world.disk (request.survey path s).1 = delivered) :
    (scan request s).1 = .ok (exitCode delivered) ∧
    (scan request s).2.notices = s.notices ++ request.announcement path ++
      (request.survey path).shownBy s ++ request.ending delivered ++ request.closing delivered := by
  have hentry : Run.onDisk (·.hasEntry path) s = (.ok true, s) := by
    rw [Run.onDisk_apply, hasEntry_of_hasFolder hfolder]
    rfl
  have hfolder : Run.onDisk (·.hasFolder path) s = (.ok true, s) := by
    rw [Run.onDisk_apply, hfolder]
    rfl
  -- The announcement has no part in what the survey gives.
  have hsame := ((request.accumulates_survey path).shows s (request.announcement path)).1
  obtain ⟨t, hrun, hnotices⟩ :=
    surveyAndDeliver_apply (s := s.shows (request.announcement path)) request path hs
  have htold : (request.survey path).shownBy (s.shows (request.announcement path)) =
      (request.survey path).shownBy s := rfl
  rw [Session.world_shows, hsame, hdelivered] at hrun hnotices
  have hattempt : Run.attempt (surveyAndDeliver request path)
      (s.shows (request.announcement path)) = (.ok (delivered.map fun _ => ()), t) := by
    rw [Run.attempt_apply, hrun]
  subst hpath
  rw [scan, bind_of_ok (Run.disk_apply s)]
  dsimp only
  rw [bind_of_ok hentry, if_neg (by decide), bind_of_ok hfolder, if_neg (by decide),
    bind_of_ok (announce_apply request _ hs), bind_of_ok hattempt]
  cases delivered with
  | ok summary =>
    refine ⟨rfl, hnotices.trans ?_⟩
    rw [htold]
    exact (List.append_assoc _ _ _).symm
  | error fault =>
    have hstart : t.notices =
        s.notices ++ request.announcement (request.path.getD s.world.disk.here) ++
          (request.survey (request.path.getD s.world.disk.here)).shownBy s :=
      hnotices.trans (List.append_nil _)
    have ht : t.Lenient :=
      ((works_surveyAndDeliver request _).keeps_console.of_eq hrun).trans hs
    dsimp only [Except.map]
    rw [← hstart, ScanRequest.closing, bind_of_ok (Run.post_apply _ ht)]
    cases request.quiet with
    | true => exact ⟨rfl, (List.append_nil _).symm⟩
    | false =>
      rw [if_pos Bool.not_false, bind_of_ok (Run.post_apply _ (s := t.shows _) ht)]
      exact ⟨rfl, rfl⟩

/-- A console that shows all of a scan lets it do what it does on one that shows everything. -/
theorem scan_of_unrefused (request : ScanRequest) {delivered : Except Fault Summary}
    (hshown : (scan request).Unrefused s)
    (hpath : request.path.getD s.world.disk.here = path)
    (hfolder : s.world.disk.hasFolder path = .ok true)
    (hdelivered : request.delivered s.world.disk (request.survey path s).1 = delivered) :
    (request.survey path).Unrefused s ∧ (scan request s).1 = .ok (exitCode delivered) ∧
    (scan request s).2.notices = s.notices ++ request.announcement path ++
      (request.survey path).shownBy s ++ request.ending delivered ++ request.closing delivered := by
  have hworks := works_scan request
  have hsurveys : Run.Works (request.survey path) := Survey.works_run path _ _ _
  obtain ⟨hcode, hnotices⟩ := scan_apply (s := s.openly) request s.lenient_openly hpath hfolder rfl
  have hall := hworks.accumulates.notices_eq s.openly
  -- What the survey shows is part of what the scan shows.
  have hsurvey : (request.survey path).Unrefused s := by
    intro notice hnotice
    refine hshown notice ?_
    rw [hnotices, List.append_assoc, List.append_assoc, List.append_assoc] at hall
    rw [← List.append_cancel_left hall]
    exact List.mem_append_right _ (List.mem_append_left _ hnotice)
  have hsame := congrArg Prod.fst (hsurveys.apply_eq hsurvey)
  dsimp only at hsame
  have hdisk : s.openly.world.disk = s.world.disk := rfl
  rw [← hsame, hdisk, hdelivered] at hcode hnotices
  rw [hworks.apply_eq hshown, hsurveys.shownBy_openly hsurvey]
  exact ⟨hsurvey, hcode, hnotices⟩

namespace ScanRequest

theorem announcement_of_quiet (hquiet : request.quiet = true) (path : Path) :
    request.announcement path = [] := by
  rw [announcement, hquiet, if_pos rfl]

theorem closing_of_quiet (hquiet : request.quiet = true) (delivered : Except Fault Summary) :
    request.closing delivered = [] := by
  unfold closing
  rw [hquiet, if_pos rfl]

/-- The same request without the option to be quiet. -/
def loud (request : ScanRequest) : ScanRequest := { request with quiet := false }

theorem survey_loud (request : ScanRequest) (path : Path) :
    request.loud.survey path = request.survey path := rfl

theorem delivered_loud (request : ScanRequest) (disk : Disk) (outcome : Except Fault Summary) :
    request.loud.delivered disk outcome = request.delivered disk outcome := rfl

theorem ending_loud (request : ScanRequest) (delivered : Except Fault Summary) :
    request.loud.ending delivered = request.ending delivered := rfl

end ScanRequest

/-- A quiet scan of a folder shows the progress of the survey before the result, or before what went
wrong. There always is some progress, so the result is never shown alone. What is left out is what
the command line tells itself before and after the survey. -/
theorem quiet_scan_shows {delivered : Except Fault Summary} (hquiet : request.quiet = true)
    (hshown : (scan request).Unrefused s)
    (hpath : request.path.getD s.world.disk.here = path)
    (hfolder : s.world.disk.hasFolder path = .ok true)
    (hdelivered : request.delivered s.world.disk (request.survey path s).1 = delivered) :
    (∀ (read : Reader) (arguments : List String), read arguments = .ok (.scan request) →
      run read arguments s = scan request s) ∧
    (scan request s).1 = .ok (exitCode delivered) ∧
    (scan request s).2.notices =
      s.notices ++ (request.survey path).shownBy s ++ request.ending delivered ∧
    Survey.opening path <+: (request.survey path).shownBy s ∧
    (scan request s).2.notices ≠ s.notices ++ request.ending delivered ∧
    ((scan request.loud).Unrefused s →
      (scan request.loud s).2.notices = s.notices ++ request.loud.announcement path ++
        (request.survey path).shownBy s ++ request.ending delivered ++
        request.loud.closing delivered) := by
  obtain ⟨hsurvey, hcode, hnotices⟩ :=
    scan_of_unrefused request hshown hpath hfolder hdelivered
  have hsurveys : Run.Works (request.survey path) := Survey.works_run path _ _ _
  have hopening : Survey.opening path <+: (request.survey path).shownBy s := by
    rw [hsurveys.shownBy_openly hsurvey]
    exact Survey.opening_isPrefix_shownBy path _ _ _ s.lenient_openly
  rw [ScanRequest.announcement_of_quiet hquiet, ScanRequest.closing_of_quiet hquiet,
    List.append_nil, List.append_nil] at hnotices
  refine ⟨fun read arguments hread => ?_, hcode, hnotices, hopening, ?_, fun hloud => ?_⟩
  · rw [run, hread, bind_of_ok (Run.ofExcept_apply _ s), perform]
  · rw [hnotices]
    intro halone
    have hlength := congrArg List.length halone
    have htwo := hopening.length_le
    rw [List.length_append, List.length_append, List.length_append] at hlength
    rw [Survey.opening, List.length_cons] at htwo
    omega
  · rw [← request.delivered_loud, ← request.survey_loud path] at hdelivered
    rw [← request.ending_loud, ← request.survey_loud path]
    exact (scan_of_unrefused request.loud hloud hpath hfolder hdelivered).2.2

end Scan

namespace Sample

/-- A session in the folder of a repository with one file that has no language. -/
def session : Session := .start {
  disk := {
    tree := .folder [("w", .folder [("r", .folder [("a.txt", .file ⟨#[]⟩)])])]
    here := .ofString "/w" }
  git := {}
  packages := []
  answers := []
  modules := []
  console := .lenient
  parserProblem? := fun _ => some "no parser"
  parsed := []
  catalogue := .standard }

def request : ScanRequest where
  path := some (.ofString "r")
  languages := []
  maxFiles := 100
  maxLines := 25
  output := none
  json := false
  quiet := true

theorem lenient_session : session.Lenient := rfl

theorem hasFolder_path : session.world.disk.hasFolder (.ofString "r") = .ok true := by rfl

end Sample

theorem quiet_scan_shows_sample :
    Sample.request.quiet = true ∧ (scan Sample.request).Unrefused Sample.session ∧
    Sample.session.world.disk.hasFolder (.ofString "r") = .ok true ∧
    run (fun _ => .ok (.scan Sample.request)) ["-q", "r"] Sample.session =
      scan Sample.request Sample.session ∧
    Survey.opening (.ofString "r") <+: (scan Sample.request Sample.session).2.notices := by
  have hshown := Run.unrefused_of_lenient (scan Sample.request) Sample.lenient_session
  have hpath : Sample.request.path.getD Sample.session.world.disk.here = .ofString "r" := rfl
  obtain ⟨hrun, -, hnotices, hopening, -⟩ :=
    quiet_scan_shows rfl hshown hpath Sample.hasFolder_path (Eq.refl _)
  refine ⟨rfl, hshown, Sample.hasFolder_path, hrun _ _ rfl, ?_⟩
  have hstart : Sample.session.notices = [] := rfl
  rw [hnotices, hstart, List.nil_append]
  exact hopening.trans (List.prefix_append _ _)

/-- A quiet scan of a folder with one file shows ten lines of progress before the outline. -/
theorem quiet_scan_not_alone :
    (scan Sample.request Sample.session).2.notices = [
      .line "Processing repository with fancy_tree...", .line "Scanning repository: r",
      .line "Repository: r", .line "Git command failed: fatal: not a git repository\n",
      .line "Git not available, using filesystem traversal",
      .line "Found 1 files via filesystem scan", .line "Classified 0 files, 1 unclassified",
      .line "Language Support Status:", .line "  No supported languages detected in repository",
      .line "Processed 1 files",
      .line "Repository: r\nTotal files: 1, Total lines: 0\n\nLanguage Support:\n\na.txt"] := by
  decide +kernel

end CommandLine

end SourceOutline
