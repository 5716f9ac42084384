import DocAudit.Command.Run
import DocAudit.Proofs.FileTree.Write
import Mathlib

/-! # All or nothing — what a run leaves behind

    A run of the program either leaves the file tree as it found it, or succeeds and
    leaves the report at the path asked for, with NO other place changed.

    The stages of a run are inverted one by one, from the last to the first: each is
    `Idle`, which means that it neither succeeds nor touches the tree, or it delivers.
    `run_cases` puts them together and says all that a run can do.  What is delivered is then
    seen to depend on the task alone: the number of workers, verbosity and
    strictness decide WHETHER a report is written, never what it says. -/

namespace DocAudit.Command

open Text

/-- The run does not succeed and leaves the files as they were. -/
def Idle (session : Session) (outcome : Outcome) : Prop :=
  outcome.tree = session.tree ∧ outcome.ending ≠ .exit .success

/-- The run succeeds and has written the report to the path that the settings name. -/
def Delivers (session : Session) (settings : Settings) (report : Report) (outcome : Outcome) :
    Prop :=
  outcome.ending = .exit .success ∧ ∃ output, settings.output = .value output ∧
    session.tree.write (Path.ofText output) (utf8 report.document) = .ok outcome.tree

/-- Renaming a fault keeps what succeeds. -/
theorem ok_of_mapError {ε δ α : Type} {f : ε → δ} {x : Except ε α} {a : α}
    (h : x.mapError f = .ok a) : x = .ok a := by
  cases x with
  | error fault => exact nomatch h
  | ok b => exact congrArg Except.ok (Except.ok.inj h)

/-- What succeeds after a first part succeeded in that part. -/
theorem ok_of_bind {ε α β : Type} {x : Except ε α} {f : α → Except ε β} {b : β}
    (h : (x >>= f) = .ok b) : ∃ a, x = .ok a ∧ f a = .ok b := by
  cases x with
  | error fault => exact nomatch h
  | ok a => exact ⟨a, rfl, h⟩

/-! ## The stages, from the last to the first -/

/-- A crash leaves the files as they were. -/
theorem idle_crash (session : Session) (crash : Crash) (notices : List Notice) :
    Idle session (.crash session crash notices) :=
  ⟨rfl, fun h => (nomatch h)⟩

theorem idle_exit (session : Session) {code : ExitStatus} (h : code ≠ .success)
    (notices : List Notice) : Idle session (.exit session code notices) :=
  ⟨rfl, fun hexit => h (Ending.exit.inj hexit)⟩

/-- A report is written, or the path cannot be used and nothing happens. -/
theorem deliver_cases (session : Session) {settings : Settings} {output : Text}
    (houtput : settings.output = .value output) (notices : List Notice) (report : Report) :
    Idle session (deliver session output notices report) ∨
      Delivers session settings report (deliver session output notices report) := by
  rw [deliver]
  by_cases hnul : (Path.ofText output).hasNul = true
  · simp only [hnul, if_true]
    exact Or.inl (idle_crash session _ _)
  · simp only [hnul]
    cases hwrite : session.tree.write (Path.ofText output) (utf8 report.document) with
    | error fault => exact Or.inl (idle_exit session (by decide) _)
    | ok tree => exact Or.inr ⟨rfl, output, houtput, hwrite⟩

/-- Strictness and a blank path only stop a run. -/
theorem conclude_cases (session : Session) (settings : Settings) (notices : List Notice)
    (report : Report) :
    Idle session (conclude session settings notices report) ∨
      Delivers session settings report (conclude session settings notices report) := by
  rw [conclude]
  by_cases hstrict : report.tally.fails settings.strict = true
  · rw [if_pos hstrict]
    exact Or.inl (idle_exit session (by decide) _)
  · rw [if_neg hstrict]
    cases houtput : settings.output with
    | blank => exact Or.inl (idle_crash session _ _)
    | value output => exact deliver_cases session houtput _ report

/-- Whatever the crew, a report that is written is the report on the extracted records. -/
theorem write_of_exportReport {workers : Option Int} {title : Text} {records : List RecordedFile}
    {report : Report} (h : exportReport workers title records = .ok report) :
    Report.write (records.map RecordedFile.extract) title = .ok report := by
  rw [exportReport] at h
  cases hfiles : extractAll workers records with
  | error fault =>
      rw [hfiles] at h
      exact nomatch h
  | ok files =>
      -- the crew decides whether there are files, not which
      have hsame : files = records.map RecordedFile.extract := by
        rw [extractAll] at hfiles
        by_cases hnil : records = []
        · rw [if_pos hnil] at hfiles
          rw [← Except.ok.inj hfiles, hnil]
          rfl
        · rw [if_neg hnil] at hfiles
          split at hfiles
          · exact nomatch hfiles
          · exact (Except.ok.inj hfiles).symm
      rw [hfiles, hsame] at h
      exact ok_of_mapError h

/-- A run is interrupted exactly if it comes to a file that the user stops it at. -/
theorem untilInterrupt_eq_true_iff {session : Session} {records : List RecordedFile} :
    (untilInterrupt session records).2 = true ↔
      ∃ record ∈ records, session.interruptAt = some record.file := by
  rw [untilInterrupt]
  cases session.interruptAt with
  | none => exact ⟨nofun, fun ⟨_, _, hat⟩ => nomatch hat⟩
  | some path =>
      show (records.any fun record => record.file == path) = true ↔ _
      simp only [List.any_eq_true, beq_iff_eq, Option.some_inj]
      exact exists_congr fun _ => and_congr_right fun _ => eq_comm

/-- An interrupt and a crew that cannot be formed only stop a run. -/
theorem process_cases (session : Session) (settings : Settings) (records : List RecordedFile) :
    Idle session (process session settings records) ∨
      ∃ report, Report.write (records.map RecordedFile.extract) settings.title = .ok report ∧
        Delivers session settings report (process session settings records) := by
  rw [process]
  by_cases hinterrupt : (untilInterrupt session records).2 = true
  · simp only [hinterrupt, if_true]
    exact Or.inl (idle_exit session (by decide) _)
  · simp only [hinterrupt]
    cases hexport : exportReport settings.workers settings.title records with
    | error fault => exact Or.inl (idle_crash session _ _)
    | ok report =>
        rcases conclude_cases session settings
          (extractionNotices session settings records ++ [extracted records]) report
          with hidle | hdelivers
        · exact Or.inl hidle
        · exact Or.inr ⟨report, write_of_exportReport hexport, hdelivers⟩

/-- An input that cannot be used only stops a run. -/
theorem idle_rejectInput (session : Session) (fault : InputFault) :
    Idle session (rejectInput session fault) := by
  cases fault with
  | unreadable path fault => exact idle_exit session (by decide) _
  | undecodable fault => exact idle_crash session _ _
  | nulInPath => exact idle_crash session _ _
  | records fault => exact idle_exit session (by decide) _

/-- The records are those of the text that is read. -/
theorem inputRecords_eq_ok {session : Session} {settings : Settings} {records : List RecordedFile}
    (h : inputRecords session settings = .ok records) :
    ∃ text, inputText session settings = .ok text ∧ Record.read text = .ok records := by
  rw [inputRecords] at h
  cases htext : inputText session settings with
  | error fault =>
      rw [htext] at h
      exact nomatch h
  | ok text =>
      rw [htext] at h
      exact ⟨text, rfl, ok_of_mapError h⟩

/-- With settings a run is what they make of it. -/
theorem run_eq_runWith {session : Session} {arguments : List Text} {request : Request}
    {settings : Settings} (hrequest : readArguments arguments = .ok request)
    (hsettings : Settings.ofRequest session.tree session.environment request = .ok settings) :
    run session arguments = runWith session settings := by
  rw [run, hrequest]
  simp only [hsettings]

/-- A run that has its settings and its records processes them. -/
theorem run_eq_process {session : Session} {arguments : List Text} {request : Request}
    {settings : Settings} {records : List RecordedFile}
    (hrequest : readArguments arguments = .ok request)
    (hsettings : Settings.ofRequest session.tree session.environment request = .ok settings)
    (hrecords : inputRecords session settings = .ok records) (hne : records ≠ []) :
    run session arguments = process session settings records := by
  rw [run_eq_runWith hrequest hsettings, runWith, hrecords]
  cases records with
  | nil => exact absurd rfl hne
  | cons record more => rfl

/-- A run with settings stops, or delivers the report on the records of its input. -/
theorem runWith_cases (session : Session) (settings : Settings) :
    Idle session (runWith session settings) ∨
      ∃ text records report, inputText session settings = .ok text ∧
        Record.read text = .ok records ∧
        Report.write (records.map RecordedFile.extract) settings.title = .ok report ∧
        Delivers session settings report (runWith session settings) := by
  rw [runWith]
  cases hinput : inputRecords session settings with
  | error fault => exact Or.inl (idle_rejectInput session fault)
  | ok records =>
      cases records with
      | nil => exact Or.inl (idle_exit session (by decide) _)
      | cons record more =>
          obtain ⟨text, htext, hread⟩ := inputRecords_eq_ok hinput
          rcases process_cases session settings (record :: more)
            with hidle | ⟨report, hreport, hdelivers⟩
          · exact Or.inl hidle
          · exact Or.inr ⟨text, record :: more, report, htext, hread, hreport, hdelivers⟩

/-- The report is due: it is the report on the records in the text of the input, under the title
    that request, environment and files settle. -/
structure Due (session : Session) (request : Request) (settings : Settings) (report : Report) :
    Prop where
  settled : Settings.ofRequest session.tree session.environment request = .ok settings
  read : ∃ text records, inputText session settings = .ok text ∧ Record.read text = .ok records ∧
    Report.write (records.map RecordedFile.extract) settings.title = .ok report

/-- **ALL THAT A RUN CAN DO**: it answers a question about the program, it stops, or it delivers
    the report that is due. -/
theorem run_cases (session : Session) (arguments : List Text) :
    ((∃ stop, readArguments arguments = .error stop) ∧
        (run session arguments).tree = session.tree) ∨
      Idle session (run session arguments) ∨
      ∃ request settings report, readArguments arguments = .ok request ∧
        Due session request settings report ∧
        Delivers session settings report (run session arguments) := by
  rw [run]
  cases harguments : readArguments arguments with
  | error stop =>
      -- help and version end well, so they are not idle, but they have no request
      refine Or.inl ⟨⟨stop, rfl⟩, ?_⟩
      cases stop with
      | help => rfl
      | version => rfl
      | misuse misuse => rfl
  | ok request =>
      refine Or.inr ?_
      cases hsettings : Settings.ofRequest session.tree session.environment request with
      | error fault =>
          refine Or.inl ?_
          cases hmisuse : fault.isMisuse with
          | true =>
              simp only [hsettings, hmisuse, if_true]
              exact idle_exit session (by decide) _
          | false =>
              simp only [hsettings, hmisuse]
              exact idle_crash session _ _
      | ok settings =>
          simp only [hsettings]
          rcases runWith_cases session settings
            with hidle | ⟨text, records, report, htext, hread, hreport, hdelivers⟩
          · exact Or.inl hidle
          · exact Or.inr ⟨request, settings, report, rfl,
              ⟨hsettings, text, records, htext, hread, hreport⟩, hdelivers⟩

/-! ## What the report depends on -/

/-- Settings take input and output from the request, and the title as it is chosen. -/
theorem ofRequest_eq_ok {tree : FileTree} {environment : Environment} {request : Request}
    {settings : Settings} (h : Settings.ofRequest tree environment request = .ok settings) :
    settings.input = request.input ∧ settings.output = request.output ∧
      Settings.chooseTitle tree environment request = .ok settings.title := by
  rw [Settings.ofRequest] at h
  obtain ⟨requested, -, h⟩ := ok_of_bind h
  obtain ⟨title, htitle, h⟩ := ok_of_bind h
  obtain ⟨workers, -, h⟩ := ok_of_bind h
  obtain rfl := Except.ok.inj h
  exact ⟨rfl, rfl, htitle⟩

/-- Two runs have the same task: the same files, the same standard input and the same variable
    for the title, and requests for the same input, output, title and sources.  They may differ
    in everything else: workers, verbosity, strictness, other variables, interrupts. -/
structure SameTask (session session' : Session) (request request' : Request) : Prop where
  tree : session'.tree = session.tree
  stdin : session'.stdin = session.stdin
  titleVariable : session'.environment.get? Settings.titleVariable
    = session.environment.get? Settings.titleVariable
  input : request'.input = request.input
  output : request'.output = request.output
  title : request'.title = request.title
  sources : request'.sources = request.sources

/-- The same task settles the same title. -/
theorem SameTask.chooseTitle {session session' : Session} {request request' : Request}
    (h : SameTask session session' request request') :
    Settings.chooseTitle session'.tree session'.environment request'
      = Settings.chooseTitle session.tree session.environment request := by
  rw [Settings.chooseTitle, Settings.chooseTitle, h.tree, h.titleVariable, h.title, h.sources]

/-- **THE TASK DECIDES THE REPORT**: the same task has the same report due at the same path. -/
theorem SameTask.due {session session' : Session} {request request' : Request}
    (h : SameTask session session' request request') {settings settings' : Settings}
    {report report' : Report} (hdue : Due session request settings report)
    (hdue' : Due session' request' settings' report') :
    settings'.output = settings.output ∧ report' = report := by
  obtain ⟨hinput, houtput, htitle⟩ := ofRequest_eq_ok hdue.settled
  obtain ⟨hinput', houtput', htitle'⟩ := ofRequest_eq_ok hdue'.settled
  have hsameTitle : settings'.title = settings.title := by
    rw [h.chooseTitle, htitle] at htitle'
    exact (Except.ok.inj htitle').symm
  have hsameText : inputText session' settings' = inputText session settings := by
    rw [inputText, inputText, hinput', hinput, h.input, h.stdin, h.tree]
  obtain ⟨text, records, htext, hread, hreport⟩ := hdue.read
  obtain ⟨text', records', htext', hread', hreport'⟩ := hdue'.read
  rw [hsameText, htext] at htext'
  obtain rfl := Except.ok.inj htext'
  rw [hread] at hread'
  obtain rfl := Except.ok.inj hread'
  rw [hsameTitle, hreport] at hreport'
  exact ⟨by rw [houtput', houtput, h.output], (Except.ok.inj hreport').symm⟩

/-- The same task leaves the same tree, whenever it is carried out. -/
theorem SameTask.tree_eq {session session' : Session} {request request' : Request}
    (h : SameTask session session' request request') {settings settings' : Settings}
    {report report' : Report} {outcome outcome' : Outcome}
    (hdue : Due session request settings report) (hdue' : Due session' request' settings' report')
    (hdelivers : Delivers session settings report outcome)
    (hdelivers' : Delivers session' settings' report' outcome') :
    outcome'.tree = outcome.tree := by
  obtain ⟨hsameOutput, rfl⟩ := h.due hdue hdue'
  obtain ⟨-, output, houtput, hwrite⟩ := hdelivers
  obtain ⟨-, output', houtput', hwrite'⟩ := hdelivers'
  rw [hsameOutput, houtput] at houtput'
  obtain rfl := Given.value.inj houtput'
  rw [h.tree, hwrite] at hwrite'
  exact (Except.ok.inj hwrite').symm

/-! ## What a run leaves behind -/

/-- The report that is due stands at the path asked for, and no other place has changed. -/
def Reported (session : Session) (request : Request) (after : FileTree) : Prop :=
  ∃ settings report output place, Due session request settings report ∧
    settings.output = .value output ∧
    session.tree.locateFile (Path.ofText output) = .ok place ∧
    FileTree.Rewritten session.tree after place (utf8 report.document) ∧
    after.read (Path.ofText output) = .ok (utf8 report.document)

/-- What is delivered is reported. -/
theorem Delivers.reported {session : Session} {request : Request} {settings : Settings}
    {report : Report} {outcome : Outcome} (h : Delivers session settings report outcome)
    (hdue : Due session request settings report) : Reported session request outcome.tree := by
  obtain ⟨-, output, houtput, hwrite⟩ := h
  obtain ⟨place, hplace, hrewritten⟩ := FileTree.rewritten_of_write hwrite
  exact ⟨settings, report, output, place, hdue, houtput, hplace, hrewritten,
    FileTree.read_of_write hwrite⟩

/-- A run that has a request and succeeds has delivered. -/
theorem delivers_of_success {session : Session} {arguments : List Text} {request : Request}
    (hrequest : readArguments arguments = .ok request)
    (hsuccess : (run session arguments).ending = .exit .success) :
    ∃ settings report, Due session request settings report ∧
      Delivers session settings report (run session arguments) := by
  rcases run_cases session arguments
    with ⟨⟨stop, hstop⟩, -⟩ | hidle | ⟨request', settings, report, hrequest', hdue, hdelivers⟩
  · rw [hrequest] at hstop
    exact nomatch hstop
  · exact absurd hsuccess hidle.2
  · rw [hrequest] at hrequest'
    obtain rfl := Except.ok.inj hrequest'
    exact ⟨settings, report, hdue, hdelivers⟩

/-- A session without files, with one documented function on its standard input. -/
def piped : Session where
  tree := ⟨.dir [], []⟩
  stdin := "[\x7b\"file\": \"a\", \"elements\": [\x7b\"kind\": \"function\", \"name\": \"f\", ".toList
    ++ "\"startLine\": 1, \"endLine\": 2, \"rawComment\": \"/** Runs. */\"\x7d]\x7d]".toList

/-- The same with a variable for the number of workers. -/
def pipedAtLarge : Session := { piped with environment := [(Settings.workersVariable, "3")] }

end DocAudit.Command
