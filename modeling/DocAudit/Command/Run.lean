import DocAudit.Command.Arguments
import DocAudit.Command.Usage
import DocAudit.Extraction.Basic
import DocAudit.Record.Decode

/-! # Running the program

    One run, as a function from what the program is given to all that it does: how it
    ends, what it prints, what it reports on the way, and the file tree that it
    leaves behind.  At most ONE file is written, and only by a run that succeeds. -/

namespace DocAudit.Command

open Text

/-- What a run is given. -/
structure Session where
  tree : FileTree
  environment : Environment := []
  stdin : Text := []
  /-- The user interrupts the run when the file of this path is being extracted. -/
  interruptAt : Option Text := none

/-- The ways to exit. -/
inductive ExitStatus where
  | success
  | failure
  | usageError
  | interrupted
  deriving Repr, DecidableEq

/-- The number that the system is told. -/
def ExitStatus.number : ExitStatus → Nat
  | .success => 0
  | .failure => 1
  | .usageError => 2
  | .interrupted => 130

/-- Faults that nothing in the program handles. -/
inductive Crash where
  /-- The input file is not UTF-8. -/
  | undecodable (fault : Utf8.Fault)
  /-- A file name holds a NUL character. -/
  | nulInPath
  /-- The settings cannot be worked out. -/
  | unsettled (fault : Settings.Fault)
  /-- The path of the report is blank. -/
  | blankOutput
  /-- No report can be written. -/
  | unreportable (fault : ExportFault)
  deriving Repr, DecidableEq

/-- The crash in words. -/
def Crash.message : Crash → Text
  | .undecodable fault => fault.message
  | .nulInPath => "embedded null byte"
  | .unsettled fault => fault.message
  | .blankOutput => Settings.blankPath
  | .unreportable fault => fault.message

/-- How a run ends. -/
inductive Ending where
  | exit (code : ExitStatus)
  | crash (crash : Crash)
  deriving Repr, DecidableEq

/-- How much a log line matters. -/
inductive LogLevel where
  | debug
  | info
  | warning
  deriving Repr, DecidableEq

/-- The level's name. -/
def LogLevel.name : LogLevel → Text
  | .debug => "DEBUG"
  | .info => "INFO"
  | .warning => "WARNING"

/-- The part of the program that a log line comes from. -/
inductive LogSource where
  | command
  | pipeline
  | extraction
  deriving Repr, DecidableEq

/-- The source's name. -/
def LogSource.name : LogSource → Text
  | .command => "phpdoc_exporter.cli"
  | .pipeline => "phpdoc_exporter.pipeline"
  | .extraction => "phpdoc_exporter.extractors"

/-- Something reported on the error stream. -/
inductive Notice where
  /-- A log line, which is shown with the time. -/
  | log (level : LogLevel) (source : LogSource) (message : Text)
  /-- A text that is printed as it is. -/
  | say (t : Text)
  deriving Repr, DecidableEq

/-- The notice as it is printed at the given time. -/
def Notice.text (time : Text) : Notice → Text
  | .log level source message =>
      time ++ " " ++ level.name ++ " " ++ source.name ++ ": " ++ message ++ "\n"
  | .say t => t

/-- All that a run does. -/
structure Outcome where
  ending : Ending
  stdout : Text := []
  notices : List Notice := []
  tree : FileTree

namespace Outcome

/-- A run that exits and leaves the files as they were. -/
def exit (session : Session) (code : ExitStatus) (notices : List Notice) : Outcome :=
  { ending := .exit code, notices := notices, tree := session.tree }

/-- A run that crashes and leaves the files as they were. -/
def crash (session : Session) (crash : Crash) (notices : List Notice) : Outcome :=
  { ending := .crash crash, notices := notices, tree := session.tree }

end Outcome

/-- A line on the error stream. -/
def say (t : Text) : Notice := .say (t ++ "\n")

/-- A line that reports an error. -/
def sayError (t : Text) : Notice := say ("error: " ++ t)

/-- Log lines that are shown only on request. -/
def debug (settings : Settings) (source : LogSource) (messages : List Text) : List Notice :=
  if settings.verbose then messages.map (.log .debug source) else []

/-! ## Input -/

/-- Why there are no records to work on. -/
inductive InputFault where
  | unreadable (path : Path) (fault : PathFault)
  | undecodable (fault : Utf8.Fault)
  | nulInPath
  | records (fault : Record.Fault)
  deriving Repr, DecidableEq

/-- The text of the input. -/
def inputText (session : Session) (settings : Settings) : Except InputFault Text :=
  if settings.input = ['-'] then .ok session.stdin
  else
    let path := Path.ofText settings.input
    if path.hasNul then .error .nulInPath
    else
      match session.tree.read path with
      | .error fault => .error (.unreadable path fault)
      | .ok bytes => (Utf8.decode bytes).mapError .undecodable

/-- The records of the input. -/
def inputRecords (session : Session) (settings : Settings) :
    Except InputFault (List RecordedFile) :=
  match inputText session settings with
  | .error fault => .error fault
  | .ok text => (Record.read text).mapError .records

/-- A run whose input cannot be used. -/
def rejectInput (session : Session) : InputFault → Outcome
  | .unreadable path fault =>
      .exit session .failure
        [sayError ("Cannot read " ++ path.text ++ ": " ++ fault.message path)]
  | .undecodable fault => .crash session (.undecodable fault) []
  | .nulInPath => .crash session .nulInPath []
  | .records fault => .exit session .failure [sayError fault.message]

/-! ## Extraction -/

/-- The files up to the one that the user interrupts, and whether there is one. -/
def untilInterrupt (session : Session) (records : List RecordedFile) : List RecordedFile × Bool :=
  match session.interruptAt with
  | none => (records, false)
  | some path =>
      (records.takeWhile fun record => record.file != path,
        records.any fun record => record.file == path)

/-- What is logged before and during extraction. -/
def extractionNotices (session : Session) (settings : Settings) (records : List RecordedFile) :
    List Notice :=
  debug settings .command
      ["Loaded " ++ Numeral.ofNat records.length ++ " file record(s)"]
    ++ debug settings .extraction
      ((untilInterrupt session records).1.flatMap RecordedFile.remarks)

/-- What is logged after extraction. -/
def extracted (records : List RecordedFile) : Notice :=
  .log .info .pipeline
    ("Extracted " ++ Numeral.ofNat (SourceFile.elementCount (records.map RecordedFile.extract))
      ++ " element(s) from " ++ Numeral.ofNat records.length ++ " file(s)")

/-! ## Output -/

/-- What the user is told of findings. -/
def findingNotices (report : Report) : List Notice :=
  if report.findings = [] then []
  else
    [say ("\nWarning: " ++ Numeral.ofNat report.tally.must ++ " MUST violation(s), "
      ++ Numeral.ofNat report.tally.should ++ " SHOULD improvement(s) detected")]

/-- A run that writes its report. -/
def deliver (session : Session) (output : Text) (notices : List Notice) (report : Report) :
    Outcome :=
  let path := Path.ofText output
  let bytes := utf8 report.document
  if path.hasNul then .crash session .nulInPath notices
  else
    match session.tree.write path bytes with
    | .error fault =>
        .exit session .failure
          (notices ++ [sayError ("failed to write output file: " ++ output ++ ": "
            ++ fault.message path)])
    | .ok tree =>
        { ending := .exit .success
          notices := notices ++ [.log .info .command
            ("Wrote " ++ Numeral.ofNat bytes.length ++ " bytes to " ++ output)]
          tree := tree }

/-- A run that has its report: it fails if it is strict and something that must hold does
    not, and otherwise writes the report. -/
def conclude (session : Session) (settings : Settings) (notices : List Notice)
    (report : Report) : Outcome :=
  let notices := notices ++ findingNotices report
  if report.tally.fails settings.strict then
    .exit session .failure
      (notices ++ [sayError "strict mode enabled, failing on MUST violations"])
  else
    match settings.output with
    | .blank => .crash session .blankOutput notices
    | .value output => deliver session output notices report

/-- A run that has its records. -/
def process (session : Session) (settings : Settings) (records : List RecordedFile) : Outcome :=
  let notices := extractionNotices session settings records
  if (untilInterrupt session records).2 then
    .exit session .interrupted
      (notices ++ [.log .warning .pipeline "Interrupted; discarding partial extraction results",
        say "\nInterrupted"])
  else
    match exportReport settings.workers settings.title records with
    | .error fault => .crash session (.unreportable fault) notices
    | .ok report => conclude session settings (notices ++ [extracted records]) report

/-- A run that has its settings. -/
def runWith (session : Session) (settings : Settings) : Outcome :=
  match inputRecords session settings with
  | .error fault => rejectInput session fault
  | .ok [] => .exit session .failure [sayError "no files in element records"]
  | .ok records => process session settings records

/-- One run of the program. -/
def run (session : Session) (arguments : List Text) : Outcome :=
  match readArguments arguments with
  | .error .help => { ending := .exit .success, stdout := help, tree := session.tree }
  | .error .version => { ending := .exit .success, stdout := version, tree := session.tree }
  | .error (.misuse misuse) => .exit session .usageError [.say (complaint misuse.message)]
  | .ok request =>
      match Settings.ofRequest session.tree session.environment request with
      | .error fault =>
          if fault.isMisuse then .exit session .usageError [sayError fault.message]
          else .crash session (.unsettled fault) []
      | .ok settings => runWith session settings

end DocAudit.Command
