import DocAudit.Proofs.Command.Strict

/-! # Endings — which runs exit, and which escape

    A run exits with one of four statuses, unless it meets a fault that NOTHING handles.
    Such faults come at three moments: while the settings are worked out (a blank number of
    workers, a first source path that is blank or too long), while the input is read (a NUL
    character in its path, bytes that are not UTF-8), and while the report is written (a path
    that is blank or holds a NUL character).

    The stages of a run are inverted one by one: each crashes exactly on its own faults, and
    the report itself is never one of them.  `run_crash_iff` puts them together. -/

namespace DocAudit

open Text

/-- What fails in two parts fails in the first, or in the second after the first succeeded. -/
theorem error_of_bind {ε α β : Type} {x : Except ε α} {f : α → Except ε β} {fault : ε}
    (h : (x >>= f) = .error fault) : x = .error fault ∨ ∃ a, x = .ok a ∧ f a = .error fault := by
  cases x with
  | error first => exact Or.inl (congrArg Except.error (Except.error.inj h))
  | ok a => exact Or.inr ⟨a, rfl, h⟩

/-! ## Settings -/

namespace Settings

variable {tree : FileTree} {environment : Environment} {request : Request} {fault : Fault}

/-- The number of workers asked for, if there is one, is one that a crew can have. -/
def AsksForCrew (request : Request) : Prop :=
  ∀ given, request.workers = some given → ∃ n : Int, given = .value n ∧ 1 ≤ n

/-- Neither the request nor the environment gives a title. -/
def Untitled (environment : Environment) (request : Request) : Prop :=
  request.title.getD [] = [] ∧ (environment.get? titleVariable).getD [] = []

/-- The faults of a request that the user is not told of as a wrong use. -/
inductive Unsettled (tree : FileTree) (environment : Environment) (request : Request) :
    Fault → Prop where
  | blankWorkers (hworkers : request.workers = some .blank) :
      Unsettled tree environment request .blankWorkers
  | blankSource {rest : List (Given Text)} (hcrew : AsksForCrew request)
      (huntitled : Untitled environment request) (hsources : request.sources = .blank :: rest) :
      Unsettled tree environment request .blankSource
  | sourceTooLong {first : Text} {rest : List (Given Text)} {fault : PathFault}
      (hcrew : AsksForCrew request) (huntitled : Untitled environment request)
      (hsources : request.sources = .value first :: rest)
      (hlong : tree.directory? (Path.ofText first) = .error fault) :
      Unsettled tree environment request (.sourceTooLong (Path.ofText first))

theorem exists_requestedWorkers?_iff :
    (∃ workers, requestedWorkers? request.workers = .ok workers) ↔ AsksForCrew request := by
  rw [AsksForCrew]
  cases request.workers with
  | none => exact ⟨fun _ => nofun, fun _ => ⟨none, rfl⟩⟩
  | some given =>
      cases given with
      | blank => simp [requestedWorkers?]
      | value n =>
          by_cases hn : n < 1
          · simp [requestedWorkers?, hn]
          · simp [requestedWorkers?, hn, Int.not_lt.mp hn]

/-- Workers that are asked for are misused or blank. -/
theorem requestedWorkers?_eq_error (h : requestedWorkers? request.workers = .error fault)
    (hmisuse : fault.isMisuse = false) :
    request.workers = some .blank ∧ fault = .blankWorkers := by
  rw [requestedWorkers?.eq_def] at h
  split at h
  · cases h
  · rename_i hblank
    exact ⟨hblank, (Except.error.inj h).symm⟩
  · split at h
    · obtain rfl := Except.error.inj h
      cases hmisuse
    · cases h

/-- A title cannot be chosen only if the first source has to give it and cannot. -/
theorem chooseTitle_eq_error_iff :
    chooseTitle tree environment request = .error fault ↔ Untitled environment request ∧
      defaultTitle tree request.sources = .error fault := by
  rw [chooseTitle, Untitled]
  split
  · rename_i htitle hvariable
    simp [htitle, hvariable]
  · rename_i hvariable
    refine ⟨?_, fun h => absurd h.1.2 hvariable⟩
    rintro ⟨⟩
  · rename_i htitle _
    refine ⟨?_, fun h => absurd h.1.1 htitle⟩
    rintro ⟨⟩

/-- The environment's workers are misused at worst. -/
theorem isMisuse_of_chooseWorkers {requested : Option Int}
    (h : chooseWorkers environment requested = .error fault) : fault.isMisuse = true := by
  cases requested with
  | some n => cases h
  | none =>
      rw [chooseWorkers, variableWorkers?] at h
      split at h
      · cases h
      · split at h
        · obtain rfl := Except.error.inj h
          rfl
        · split at h
          · obtain rfl := Except.error.inj h
            rfl
          · cases h

/-- The first source gives no title only if it is blank or too long. -/
theorem unsettled_of_defaultTitle (hcrew : AsksForCrew request)
    (huntitled : Untitled environment request)
    (h : defaultTitle tree request.sources = .error fault) :
    Unsettled tree environment request fault := by
  rw [defaultTitle.eq_def] at h
  split at h
  · exact nomatch h
  · rename_i hsources
    obtain rfl := Except.error.inj h
    exact .blankSource hcrew huntitled hsources
  · rename_i hsources
    simp only at h
    split at h
    · rename_i hlong
      obtain rfl := Except.error.inj h
      exact .sourceTooLong hcrew huntitled hsources hlong
    · exact nomatch h
    · exact nomatch h

/-- **SETTINGS ESCAPE** on three faults only: the checks come in the order of their reading, so the
    sources count only if the workers asked for are in order. -/
theorem ofRequest_eq_error_iff :
    ofRequest tree environment request = .error fault ∧ fault.isMisuse = false ↔
      Unsettled tree environment request fault := by
  constructor
  · rintro ⟨h, hmisuse⟩
    rw [ofRequest] at h
    rcases error_of_bind h with hrequested | ⟨requested, hrequested, h⟩
    · obtain ⟨hblank, rfl⟩ := requestedWorkers?_eq_error hrequested hmisuse
      exact .blankWorkers hblank
    rcases error_of_bind h with htitle | ⟨title, -, h⟩
    · obtain ⟨huntitled, hdefault⟩ := chooseTitle_eq_error_iff.mp htitle
      exact unsettled_of_defaultTitle (exists_requestedWorkers?_iff.mp ⟨requested, hrequested⟩)
        huntitled hdefault
    rcases error_of_bind h with hworkers | ⟨workers, -, h⟩
    · rw [isMisuse_of_chooseWorkers hworkers] at hmisuse
      cases hmisuse
    · cases h
  · intro h
    cases h with
    | blankWorkers hworkers =>
        rw [ofRequest, hworkers]
        exact ⟨rfl, rfl⟩
    | blankSource hcrew huntitled hsources =>
        obtain ⟨requested, hrequested⟩ := exists_requestedWorkers?_iff.mpr hcrew
        have htitle : chooseTitle tree environment request = .error .blankSource :=
          chooseTitle_eq_error_iff.mpr ⟨huntitled, by rw [hsources]; rfl⟩
        rw [ofRequest, hrequested, htitle]
        exact ⟨rfl, rfl⟩
    | @sourceTooLong first rest fault hcrew huntitled hsources hlong =>
        obtain ⟨requested, hrequested⟩ := exists_requestedWorkers?_iff.mpr hcrew
        have htitle : chooseTitle tree environment request
            = .error (.sourceTooLong (Path.ofText first)) :=
          chooseTitle_eq_error_iff.mpr ⟨huntitled, by rw [hsources, defaultTitle, hlong]⟩
        rw [ofRequest, hrequested, htitle]
        exact ⟨rfl, rfl⟩

end Settings

namespace Command

variable {session : Session} {arguments : List Text} {settings : Settings} {report : Report}
  {records : List RecordedFile} {crash : Crash}

/-! ## The report -/

/-- The path of the report is one that nothing handles. -/
inductive BadOutput (settings : Settings) : Crash → Prop where
  | blank (houtput : settings.output = .blank) : BadOutput settings .blankOutput
  | nul {output : Text} (houtput : settings.output = .value output)
      (hnul : (Path.ofText output).hasNul = true) : BadOutput settings .nulInPath

theorem deliver_crash_iff {output : Text} {notices : List Notice} :
    (deliver session output notices report).ending = .crash crash ↔
      (Path.ofText output).hasNul = true ∧ crash = .nulInPath := by
  rw [deliver]
  cases hnul : (Path.ofText output).hasNul with
  | true =>
      simp only [if_true]
      exact ⟨fun h => ⟨trivial, (Ending.crash.inj h).symm⟩, fun h => h.2 ▸ rfl⟩
  | false =>
      constructor
      · intro h
        simp only [Bool.false_eq_true, if_false] at h
        split at h
        · cases h
        · cases h
      · rintro ⟨⟨⟩, -⟩

/-- A report that is not held back crashes on its path. -/
theorem conclude_crash_iff {notices : List Notice} :
    (conclude session settings notices report).ending = .crash crash ↔
      report.tally.fails settings.strict = false ∧ BadOutput settings crash := by
  rw [conclude]
  cases hfails : report.tally.fails settings.strict with
  | true =>
      simp only [if_true]
      constructor
      · rintro ⟨⟩
      · rintro ⟨⟨⟩, -⟩
  | false =>
      simp only [Bool.false_eq_true, if_false, true_and]
      cases houtput : settings.output with
      | blank =>
          refine ⟨fun h => ?_, fun h => ?_⟩
          · obtain rfl := Ending.crash.inj h
            exact .blank houtput
          · cases h with
            | blank _ => rfl
            | nul hvalue _ =>
                rw [houtput] at hvalue
                cases hvalue
      | value output =>
          refine deliver_crash_iff.trans ⟨?_, fun h => ?_⟩
          · rintro ⟨hnul, rfl⟩
            exact .nul houtput hnul
          · cases h with
            | blank hblank =>
                rw [houtput] at hblank
                cases hblank
            | nul hvalue hnul =>
                rw [houtput] at hvalue
                obtain rfl := Given.value.inj hvalue
                exact ⟨hnul, rfl⟩

/-! ## Extraction -/

/-- An interrupted run exits without a report. -/
theorem process_of_interrupt (h : ∃ record ∈ records, session.interruptAt = some record.file)
    (settings : Settings) :
    ∃ notices, process session settings records = .exit session .interrupted notices := by
  rw [process, untilInterrupt_eq_true_iff.mpr h]
  exact ⟨_, rfl⟩

/-- A run that is not interrupted has its report. -/
theorem process_of_no_interrupt
    (h : ¬ ∃ record ∈ records, session.interruptAt = some record.file)
    (hworkers : ∀ n, settings.workers = some n → 1 ≤ n) :
    ∃ notices report,
      Report.write (records.map RecordedFile.extract) settings.title = .ok report ∧
      process session settings records = conclude session settings notices report := by
  have hinterrupt : (untilInterrupt session records).2 = false :=
    Bool.eq_false_iff.mpr fun htrue => h (untilInterrupt_eq_true_iff.mp htrue)
  obtain ⟨_, -, hwrite⟩ :=
    Report.exists_write_eq_ok (records.map RecordedFile.extract) settings.title
  refine ⟨extractionNotices session settings records ++ [extracted records], _, hwrite, ?_⟩
  rw [process, hinterrupt, exportReport_eq hworkers, hwrite]
  rfl

/-- Records that were accepted crash a run only on the path of its report. -/
theorem process_crash_iff (hworkers : ∀ n, settings.workers = some n → 1 ≤ n) :
    (process session settings records).ending = .crash crash ↔
      (¬ ∃ record ∈ records, session.interruptAt = some record.file) ∧
      ∃ report, Report.write (records.map RecordedFile.extract) settings.title = .ok report ∧
        report.tally.fails settings.strict = false ∧ BadOutput settings crash := by
  by_cases h : ∃ record ∈ records, session.interruptAt = some record.file
  · obtain ⟨notices, hprocess⟩ := process_of_interrupt h settings
    rw [hprocess]
    exact ⟨nofun, fun hnot => absurd h hnot.1⟩
  · obtain ⟨notices, report, hwrite, hprocess⟩ := process_of_no_interrupt h hworkers
    rw [hprocess, conclude_crash_iff]
    refine ⟨fun hcrash => ⟨h, report, hwrite, hcrash⟩, ?_⟩
    rintro ⟨-, report', hwrite', hcrash⟩
    rw [hwrite] at hwrite'
    obtain rfl := Except.ok.inj hwrite'
    exact hcrash

/-! ## The input -/

/-- The input is one that nothing handles: a file whose path holds a NUL character or whose bytes
    are no text. -/
inductive BadInput (session : Session) (settings : Settings) : Crash → Prop where
  | nul (hfile : settings.input ≠ ['-']) (hnul : (Path.ofText settings.input).hasNul = true) :
      BadInput session settings .nulInPath
  | undecodable {bytes : List UInt8} {fault : Utf8.Fault} (hfile : settings.input ≠ ['-'])
      (hnul : (Path.ofText settings.input).hasNul = false)
      (hread : session.tree.read (Path.ofText settings.input) = .ok bytes)
      (hdecode : Utf8.decode bytes = .error fault) :
      BadInput session settings (.undecodable fault)

section InputText

variable (hfile : settings.input ≠ ['-'])

include hfile

theorem inputText_of_nul (hnul : (Path.ofText settings.input).hasNul = true) :
    inputText session settings = .error .nulInPath := by
  rw [inputText, if_neg hfile]
  simp only [hnul, if_true]

variable (hnul : (Path.ofText settings.input).hasNul = false)

include hnul

theorem inputText_of_unreadable {fault : PathFault}
    (hread : session.tree.read (Path.ofText settings.input) = .error fault) :
    inputText session settings = .error (.unreadable (Path.ofText settings.input) fault) := by
  rw [inputText, if_neg hfile]
  simp only [hnul, hread, Bool.false_eq_true, if_false]

theorem inputText_of_bytes {bytes : List UInt8}
    (hread : session.tree.read (Path.ofText settings.input) = .ok bytes) :
    inputText session settings = (Utf8.decode bytes).mapError .undecodable := by
  rw [inputText, if_neg hfile]
  simp only [hnul, hread, Bool.false_eq_true, if_false]

end InputText

/-- A run without the text of its input crashes exactly on such an input. -/
theorem inputText_crash_iff :
    (∃ fault, inputText session settings = .error fault ∧
        (rejectInput session fault).ending = .crash crash) ↔
      BadInput session settings crash := by
  constructor
  · rintro ⟨fault, htext, hcrash⟩
    by_cases hfile : settings.input = ['-']
    · rw [inputText, if_pos hfile] at htext
      cases htext
    cases hnul : (Path.ofText settings.input).hasNul with
    | true =>
        rw [inputText_of_nul hfile hnul] at htext
        obtain rfl := Except.error.inj htext
        obtain rfl := Ending.crash.inj hcrash
        exact .nul hfile hnul
    | false =>
    cases hread : session.tree.read (Path.ofText settings.input) with
    | error unreadable =>
        rw [inputText_of_unreadable hfile hnul hread] at htext
        obtain rfl := Except.error.inj htext
        cases hcrash
    | ok bytes =>
    rw [inputText_of_bytes hfile hnul hread] at htext
    cases hdecode : Utf8.decode bytes with
    | ok text =>
        rw [hdecode] at htext
        cases htext
    | error undecodable =>
        rw [hdecode] at htext
        obtain rfl := Except.error.inj htext
        obtain rfl := Ending.crash.inj hcrash
        exact .undecodable hfile hnul hread hdecode
  · intro h
    cases h with
    | nul hfile hnul => exact ⟨.nulInPath, inputText_of_nul hfile hnul, rfl⟩
    | @undecodable bytes fault hfile hnul hread hdecode =>
        refine ⟨.undecodable fault, ?_, rfl⟩
        rw [inputText_of_bytes hfile hnul hread, hdecode]
        rfl

/-- The records of a text are its reading. -/
theorem inputRecords_of_text {text : Text} (htext : inputText session settings = .ok text) :
    inputRecords session settings = (Record.read text).mapError .records := by
  rw [inputRecords, htext]

/-- A run that has the text of its input crashes only in working on records. -/
theorem runWith_crash_iff_of_text {text : Text} (htext : inputText session settings = .ok text) :
    (runWith session settings).ending = .crash crash ↔
      ∃ records, Record.read text = .ok records ∧ records ≠ [] ∧
        (process session settings records).ending = .crash crash := by
  rw [runWith, inputRecords_of_text htext]
  cases Record.read text with
  | error fault =>
      constructor
      · rintro ⟨⟩
      · rintro ⟨_, ⟨⟩, -⟩
  | ok records =>
      cases records with
      | nil =>
          constructor
          · rintro ⟨⟩
          · rintro ⟨_, ⟨⟩, hne, -⟩
            exact absurd rfl hne
      | cons record more =>
          refine ⟨fun h => ⟨_, rfl, List.cons_ne_nil _ _, h⟩, ?_⟩
          rintro ⟨_, ⟨⟩, -, h⟩
          exact h

/-- A run with settings crashes on its input, or in working on its records. -/
theorem runWith_crash_iff :
    (runWith session settings).ending = .crash crash ↔
      BadInput session settings crash ∨
      ∃ text records, inputText session settings = .ok text ∧ Record.read text = .ok records ∧
        records ≠ [] ∧ (process session settings records).ending = .crash crash := by
  rw [← inputText_crash_iff]
  cases htext : inputText session settings with
  | error fault =>
      rw [runWith, inputRecords, htext]
      refine ⟨fun h => Or.inl ⟨fault, rfl, h⟩, ?_⟩
      rintro (⟨_, ⟨⟩, h⟩ | ⟨_, _, ⟨⟩, -⟩)
      exact h
  | ok text =>
      refine (runWith_crash_iff_of_text htext).trans ⟨?_, ?_⟩
      · rintro ⟨records, h⟩
        exact Or.inr ⟨text, records, rfl, h⟩
      · rintro (⟨_, ⟨⟩, -⟩ | ⟨_, records, ⟨⟩, h⟩)
        exact ⟨records, h⟩

/-! ## The whole run -/

/-- The run has a report to write: its records were accepted, nobody interrupts it, and strictness
    does not hold the report back. -/
def ReportDue (session : Session) (settings : Settings) : Prop :=
  ∃ text records report, inputText session settings = .ok text ∧
    Record.read text = .ok records ∧ records ≠ [] ∧
    (¬ ∃ record ∈ records, session.interruptAt = some record.file) ∧
    Report.write (records.map RecordedFile.extract) settings.title = .ok report ∧
    report.tally.fails settings.strict = false

/-- The run meets a fault that nothing handles. -/
inductive Escapes (session : Session) (arguments : List Text) : Crash → Prop where
  /-- The settings cannot be worked out, and the user is not told how to mend it. -/
  | settings {request : Request} {fault : Settings.Fault}
      (hrequest : readArguments arguments = .ok request)
      (hfault : Settings.Unsettled session.tree session.environment request fault) :
      Escapes session arguments (.unsettled fault)
  /-- The input cannot be looked at or is no text. -/
  | input {request : Request} {settings : Settings} {crash : Crash}
      (hrequest : readArguments arguments = .ok request)
      (hsettings : Settings.ofRequest session.tree session.environment request = .ok settings)
      (hinput : BadInput session settings crash) : Escapes session arguments crash
  /-- The report is due, but its path cannot be looked at. -/
  | output {request : Request} {settings : Settings} {crash : Crash}
      (hrequest : readArguments arguments = .ok request)
      (hsettings : Settings.ofRequest session.tree session.environment request = .ok settings)
      (hdue : ReportDue session settings) (houtput : BadOutput settings crash) :
      Escapes session arguments crash

/-- Settings that cannot be worked out crash a run exactly on the faults that are no misuse. -/
theorem run_crash_iff_of_fault {request : Request} {fault : Settings.Fault}
    (hrequest : readArguments arguments = .ok request)
    (hfault : Settings.ofRequest session.tree session.environment request = .error fault) :
    (run session arguments).ending = .crash crash ↔
      fault.isMisuse = false ∧ crash = .unsettled fault := by
  simp only [run, hrequest, hfault]
  cases fault.isMisuse with
  | true =>
      constructor
      · rintro ⟨⟩
      · rintro ⟨⟨⟩, -⟩
  | false => exact ⟨fun h => ⟨rfl, (Ending.crash.inj h).symm⟩, fun h => h.2 ▸ rfl⟩

/-- Settings crash a run on its input, or on the path of its report. -/
theorem run_crash_iff_of_settings {request : Request}
    (hrequest : readArguments arguments = .ok request)
    (hsettings : Settings.ofRequest session.tree session.environment request = .ok settings) :
    (run session arguments).ending = .crash crash ↔
      BadInput session settings crash ∨ ReportDue session settings ∧ BadOutput settings crash := by
  rw [run_eq_runWith hrequest hsettings, runWith_crash_iff]
  refine or_congr_right ⟨?_, ?_⟩
  · rintro ⟨text, records, htext, hread, hne, hcrash⟩
    obtain ⟨hinterrupt, report, hreport, hpass, houtput⟩ :=
      (process_crash_iff fun n => one_le_workers hsettings).mp hcrash
    exact ⟨⟨text, records, report, htext, hread, hne, hinterrupt, hreport, hpass⟩, houtput⟩
  · rintro ⟨⟨text, records, report, htext, hread, hne, hinterrupt, hreport, hpass⟩, houtput⟩
    exact ⟨text, records, htext, hread, hne,
      (process_crash_iff fun n => one_le_workers hsettings).mpr
        ⟨hinterrupt, report, hreport, hpass, houtput⟩⟩

/-- **WHEN A RUN CRASHES**: exactly on the faults that nothing handles. -/
theorem run_crash_iff :
    (run session arguments).ending = .crash crash ↔ Escapes session arguments crash := by
  constructor
  · intro hcrash
    cases hrequest : readArguments arguments with
    | error stop =>
        simp only [run, hrequest] at hcrash
        cases stop <;> cases hcrash
    | ok request =>
    cases hsettings : Settings.ofRequest session.tree session.environment request with
    | error fault =>
        obtain ⟨hmisuse, rfl⟩ := (run_crash_iff_of_fault hrequest hsettings).mp hcrash
        exact .settings hrequest (Settings.ofRequest_eq_error_iff.mp ⟨hsettings, hmisuse⟩)
    | ok settings =>
    rcases (run_crash_iff_of_settings hrequest hsettings).mp hcrash with hinput | ⟨hdue, houtput⟩
    · exact .input hrequest hsettings hinput
    · exact .output hrequest hsettings hdue houtput
  · intro h
    cases h with
    | settings hrequest hfault =>
        obtain ⟨hsettings, hmisuse⟩ := Settings.ofRequest_eq_error_iff.mpr hfault
        exact (run_crash_iff_of_fault hrequest hsettings).mpr ⟨hmisuse, rfl⟩
    | input hrequest hsettings hinput =>
        exact (run_crash_iff_of_settings hrequest hsettings).mpr (Or.inl hinput)
    | output hrequest hsettings hdue houtput =>
        exact (run_crash_iff_of_settings hrequest hsettings).mpr (Or.inr ⟨hdue, houtput⟩)

/-- The run tells the system a number that users know: 0, 1, 2 or 130. -/
def Exits (outcome : Outcome) : Prop :=
  ∃ status, outcome.ending = .exit status ∧ status.number ∈ [0, 1, 2, 130]

theorem ExitStatus.number_mem (status : ExitStatus) : status.number ∈ [0, 1, 2, 130] := by
  cases status <;> decide

theorem exits_iff {outcome : Outcome} :
    Exits outcome ↔ ¬ ∃ crash, outcome.ending = .crash crash := by
  rw [Exits]
  cases outcome.ending with
  | exit status => exact ⟨fun _ => nofun, fun _ => ⟨status, rfl, status.number_mem⟩⟩
  | crash crash => exact ⟨nofun, fun h => absurd ⟨crash, rfl⟩ h⟩

/-- A session with one file, whose only byte begins no character. -/
def garbled : Session where
  tree := ⟨.dir [("in.json", .file [0xff])], []⟩

end Command

end DocAudit
