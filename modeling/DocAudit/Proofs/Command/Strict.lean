import DocAudit.Proofs.Command.AllOrNothing
import DocAudit.Proofs.Comment.Summary
import DocAudit.Proofs.Extraction.Total

/-! # Strictness — when a run fails on what it was given

    A record BREAKS A REQUIREMENT if it has no comment, if its comment cannot be read, or if it is
    of a kind that needs a summary and its comment has none.  Each such record gives one
    finding of the strongest severity and no other record gives any, so the report counts
    them.

    A run that has its records, a path that can be written and no interrupt comes to its end
    in one of two ways: it fails and writes nothing if it is strict and some record breaks a
    requirement, and delivers its report otherwise. -/

namespace DocAudit

open Text

/-! ## Records that break a requirement -/

/-- The comment of the record is absent or malformed, or lacks a summary that its kind needs. -/
def RecordedElement.BreaksRequirement (record : RecordedElement) : Prop :=
  record.raw = none ∨
    (∃ raw fault, record.raw = some raw ∧ Comment.parse raw = .error fault) ∨
    ∃ raw doc, record.raw = some raw ∧ Comment.parse raw = .ok doc ∧
      record.kind ∈ [Kind.cls, .interface, .trait, .method, .function] ∧ doc.summary = none

namespace RecordedElement

variable {record : RecordedElement}

/-- What the clauses look at in an extracted record. -/
theorem breaksRequirement_iff :
    record.BreaksRequirement ↔ record.doc? = none ∨
      record.kind.NeedsSummary ∧ record.doc?.any Subject.lacksSummary = true := by
  rw [BreaksRequirement, doc?]
  cases hraw : record.raw with
  | none => simp
  | some raw =>
      cases hparse : Comment.parse raw with
      | error fault => simp [hparse, Except.toOption]
      | ok doc => simp [hparse, Except.toOption, lacksSummary_of_parse hparse, Kind.NeedsSummary]

instance : DecidablePred RecordedElement.BreaksRequirement := fun _ =>
  decidable_of_iff _ breaksRequirement_iff.symm

/-- A record gives one finding that a requirement is broken, or none. -/
theorem musts_extract (path : Text) (record : RecordedElement) :
    musts (record.extract path).findings = if record.BreaksRequirement then 1 else 0 := by
  simp only [breaksRequirement_iff]
  exact Subject.musts_check _

end RecordedElement

theorem musts_extract_file (file : RecordedFile) :
    musts file.extract.findings = file.elements.countP (·.BreaksRequirement) := by
  show musts ((file.elements.map (RecordedElement.extract file.file)).flatMap Element.findings) = _
  induction file.elements with
  | nil => rfl
  | cons record rest ih =>
      rw [List.map_cons, List.flatMap_cons, musts_append, RecordedElement.musts_extract, ih,
        List.countP_cons, Nat.add_comm]
      simp

/-- **THE REPORT COUNTS** the records that break a requirement. -/
theorem musts_extracted (records : List RecordedFile) :
    musts ((records.map RecordedFile.extract).flatMap SourceFile.findings)
      = (records.flatMap (·.elements)).countP (·.BreaksRequirement) := by
  induction records with
  | nil => rfl
  | cons file rest ih =>
      rw [List.map_cons, List.flatMap_cons, musts_append, musts_extract_file, ih,
        List.flatMap_cons, List.countP_append]

/-! ## The comment in the input -/

namespace Record

/-- The values of the elements in a list of files, in their order. -/
def elementValues (items : List Json.Value) : List Json.Value :=
  items.flatMap fun item =>
    match item with
    | .object members =>
        match Json.member? "elements" members with
        | some (.array elements) => elements
        | _ => []
    | _ => []

/-- The comment that the value of an element has, under the first name that is there. -/
def commentValue? : Json.Value → Option Json.Value
  | .object members => (Json.member? "rawComment" members).or (Json.member? "raw_comment" members)
  | _ => none

/-- A record has no comment exactly if its value has none or a null one. -/
theorem raw_eq_none_iff {value : Json.Value} {record : RecordedElement}
    (h : element value = .ok record) :
    record.raw = none ↔ commentValue? value = none ∨ commentValue? value = some .null := by
  obtain ⟨members, rfl, hdescribes, -⟩ := element_eq_ok.mp h
  have hfind : (find? members ["rawComment", "raw_comment"]).map (·.2)
      = commentValue? (.object members) := by
    rw [find?, commentValue?]
    cases Json.member? "rawComment" members with
    | some value => rfl
    | none =>
        rw [find?]
        cases Json.member? "raw_comment" members with
        | some value => rfl
        | none => rfl
  rw [← hfind]
  rcases optional_eq_ok.mp hdescribes.raw with ⟨hnone, hraw⟩ | ⟨found, value, hsome, htext⟩
  · rw [hnone]
    simp [hraw]
  · rw [hsome]
    cases value with
    | null =>
        obtain hraw := Except.ok.inj htext
        simp [← hraw]
    | text t =>
        obtain hraw := Except.ok.inj htext
        simp [← hraw]
    | bool _ | number _ | array _ | object _ => exact nomatch htext

/-- The elements of the records are those of the items, one for one. -/
theorem forall₂_elementValues {items : List Json.Value} {records : List RecordedFile}
    (h : List.Forall₂ (fun item record => file item = .ok record) items records) :
    List.Forall₂ (fun value record => element value = .ok record) (elementValues items)
      (records.flatMap (·.elements)) := by
  induction h with
  | nil => exact .nil
  | cons hfile _ ih =>
      rw [elementValues, List.flatMap_cons, List.flatMap_cons]
      refine List.rel_append ?_ ih
      obtain ⟨members, rfl, -, helements⟩ := file_eq_ok.mp hfile
      rcases elementsMember_eq_ok.mp helements with ⟨hnone, hnil⟩ | ⟨elements, hsome, heach⟩
      · simp only [hnone, hnil]
        exact .nil
      · simp only [hsome]
        exact heach

end Record

namespace Command

/-! ## Runs that come to their end -/

theorem one_le_of_variableWorkers? {environment : Environment} {n : Int}
    (h : Settings.variableWorkers? environment = .ok (some n)) : 1 ≤ n := by
  rw [Settings.variableWorkers?] at h
  split at h
  · cases h
  · split at h
    · cases h
    · split at h
      · cases h
      · rename_i hle
        obtain rfl := Option.some.inj (Except.ok.inj h)
        omega

/-- Settings ask for one worker at least, if they ask for any number. -/
theorem one_le_workers {tree : FileTree} {environment : Environment} {request : Request}
    {settings : Settings} (h : Settings.ofRequest tree environment request = .ok settings)
    {n : Int} (hn : settings.workers = some n) : 1 ≤ n := by
  rw [Settings.ofRequest] at h
  obtain ⟨requested, hrequested, h⟩ := ok_of_bind h
  obtain ⟨title, -, h⟩ := ok_of_bind h
  obtain ⟨workers, hworkers, h⟩ := ok_of_bind h
  obtain rfl := Except.ok.inj h
  obtain rfl : workers = some n := hn
  cases requested with
  | none => exact one_le_of_variableWorkers? hworkers
  | some m =>
      obtain rfl := Option.some.inj (Except.ok.inj hworkers)
      rw [Settings.requestedWorkers?.eq_def] at hrequested
      split at hrequested
      · cases hrequested
      · cases hrequested
      · split at hrequested
        · cases hrequested
        · obtain rfl := Option.some.inj (Except.ok.inj hrequested)
          omega

theorem strict_of_ofRequest {tree : FileTree} {environment : Environment} {request : Request}
    {settings : Settings} (h : Settings.ofRequest tree environment request = .ok settings) :
    settings.strict = (request.strict || Settings.variableStrict environment) := by
  rw [Settings.ofRequest] at h
  obtain ⟨_, -, h⟩ := ok_of_bind h
  obtain ⟨_, -, h⟩ := ok_of_bind h
  obtain ⟨_, -, h⟩ := ok_of_bind h
  obtain rfl := Except.ok.inj h
  rfl

/-- A run with a valid request, whose input holds records, which is not interrupted and whose report
    has a place to go. -/
structure Unhindered (session : Session) (arguments : List Text) (request : Request)
    (settings : Settings) (text : Text) (records : List RecordedFile) : Prop where
  understood : readArguments arguments = .ok request
  settled : Settings.ofRequest session.tree session.environment request = .ok settings
  given : inputText session settings = .ok text
  accepted : Record.read text = .ok records
  nonempty : records ≠ []
  uninterrupted : ∀ record ∈ records, session.interruptAt ≠ some record.file
  writable : ∃ output place, settings.output = .value output ∧
    (Path.ofText output).hasNul = false ∧
    session.tree.locateFile (Path.ofText output) = .ok place

namespace Unhindered

variable {session : Session} {arguments : List Text} {request : Request} {settings : Settings}
  {text : Text} {records : List RecordedFile}

theorem untilInterrupt_eq (h : Unhindered session arguments request settings text records) :
    (untilInterrupt session records).2 = false := by
  refine Bool.eq_false_iff.mpr fun hinterrupt => ?_
  obtain ⟨record, hrecord, hat⟩ := untilInterrupt_eq_true_iff.mp hinterrupt
  exact h.uninterrupted record hrecord hat

/-- The report is written and counts the requirements that the records break. -/
theorem exists_report (h : Unhindered session arguments request settings text records) :
    ∃ report, exportReport settings.workers settings.title records = .ok report ∧
      report.tally.must = (records.flatMap (·.elements)).countP (·.BreaksRequirement) := by
  obtain ⟨sorted, -, hwrite⟩ :=
    Report.exists_write_eq_ok (records.map RecordedFile.extract) settings.title
  have hreport := exportReport_eq (fun n hn => one_le_workers h.settled hn) settings.title records
  rw [hwrite] at hreport
  refine ⟨_, hreport, ?_⟩
  rw [← musts_extracted, Tally.of_eq]
  rfl

/-- The run comes down to its conclusion. -/
theorem run_eq (h : Unhindered session arguments request settings text records) {report : Report}
    (hreport : exportReport settings.workers settings.title records = .ok report) :
    ∃ notices, run session arguments = conclude session settings notices report := by
  have hrecords : inputRecords session settings = .ok records := by
    rw [inputRecords, h.given]
    show (Record.read text).mapError InputFault.records = _
    rw [h.accepted]
    rfl
  rw [run_eq_process h.understood h.settled hrecords h.nonempty, process, h.untilInterrupt_eq, hreport]
  exact ⟨_, rfl⟩

/-- A conclusion that does not fail delivers. -/
theorem delivers_conclude (h : Unhindered session arguments request settings text records)
    {report : Report} (hpass : report.tally.fails settings.strict = false)
    (notices : List Notice) :
    Delivers session settings report (conclude session settings notices report) := by
  obtain ⟨output, place, houtput, hnul, hplace⟩ := h.writable
  rw [conclude, hpass, houtput]
  show Delivers session settings report (deliver session output _ report)
  rw [deliver, hnul, FileTree.write, hplace]
  refine ⟨rfl, output, houtput, ?_⟩
  rw [FileTree.write, hplace]
  rfl

end Unhindered

/-- A session that is strict by its environment and is given three elements: one with a null
    comment, one with a summary and one with a tag alone. -/
def lacking : Session where
  tree := ⟨.dir [], []⟩
  environment := [(Settings.strictVariable, " Yes ")]
  stdin := "[\x7b\"file\": \"a\", \"elements\": [\x7b\"kind\": \"property\", ".toList
    ++ "\"name\": \"p\", \"startLine\": 1, \"endLine\": 1, \"rawComment\": null\x7d, ".toList
    ++ "\x7b\"kind\": \"trait\", \"name\": \"T\", \"startLine\": 2, \"endLine\": 3, ".toList
    ++ "\"rawComment\": \"/** Runs. */\"\x7d, ".toList
    ++ "\x7b\"kind\": \"method\", \"name\": \"m\", \"startLine\": 3, \"endLine\": 3, ".toList
    ++ "\"rawComment\": \"/** @api */\"\x7d]\x7d]".toList

end Command

end DocAudit
