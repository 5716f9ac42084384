import DocAudit.Comment.Parser
import DocAudit.Record.Basic
import DocAudit.Report.Document

/-! # Extraction

    Records become elements: the comment of each is read, and an element whose
    comment is MALFORMED keeps the text and goes without a structured form.  The
    outcome does not depend on how many workers share the files. -/

namespace DocAudit

open Text

namespace RecordedElement

/-- The structured form of the record's comment, if it has one that can be read. -/
def doc? (record : RecordedElement) : Option Comment :=
  record.raw.bind fun raw => (Comment.parse raw).toOption

theorem raw_isSome_of_doc? (record : RecordedElement) (h : record.doc?.isSome) :
    record.raw.isSome := by
  cases hr : record.raw with
  | none => simp [doc?, hr] at h
  | some _ => rfl

/-- The element that a record of a file describes. -/
def extract (path : Text) (record : RecordedElement) : Element where
  kind := record.kind
  name := record.name
  place := ⟨path, record.startLine, record.endLine⟩
  scope := record.scope
  raw := record.raw
  doc := record.doc?
  written := record.raw_isSome_of_doc?

/-- The remark on a record whose comment is malformed. -/
def remark? (path : Text) (record : RecordedElement) : Option Text :=
  match record.raw with
  | none => none
  | some raw =>
      match Comment.parse raw with
      | .ok _ => none
      | .error fault =>
          some (path ++ ":" ++ Numeral.ofNat record.startLine ++ ": keeping raw doc-comment of "
            ++ record.kind.name ++ " " ++ quoted record.name ++ ": " ++ fault.message)

end RecordedElement

namespace RecordedFile

/-- The source file that a record describes. -/
def extract (record : RecordedFile) : SourceFile :=
  ⟨record.file, record.elements.map (RecordedElement.extract record.file)⟩

/-- The remarks on a file: its malformed comments, then how many elements it has. -/
def remarks (record : RecordedFile) : List Text :=
  record.elements.filterMap (RecordedElement.remark? record.file)
    ++ [record.file ++ ": extracted " ++ Numeral.ofNat record.elements.length ++ " element(s)"]

end RecordedFile

/-- A crew without workers cannot be formed. -/
inductive CrewFault where
  | noWorkers
  deriving Repr, DecidableEq

/-- The fault in words. -/
def CrewFault.message : CrewFault → Text
  | .noWorkers => "max_workers must be greater than 0"

/-- Extract files with a crew of workers, of the usual size if no number is given.  Without
    files no crew is formed. -/
def extractAll (workers : Option Int) (records : List RecordedFile) :
    Except CrewFault (List SourceFile) :=
  if records = [] then .ok []
  else if workers.any (· < 1) then .error .noWorkers
  else .ok (records.map RecordedFile.extract)

/-- Why a report on records cannot be written. -/
inductive ExportFault where
  | crew (fault : CrewFault)
  | rule (fault : SegmentFault)
  deriving Repr, DecidableEq

/-- The fault in words. -/
def ExportFault.message : ExportFault → Text
  | .crew fault => fault.message
  | .rule fault => fault.message

/-- Extract files and write the report on them. -/
def exportReport (workers : Option Int) (title : Text) (records : List RecordedFile) :
    Except ExportFault Report :=
  match extractAll workers records with
  | .error fault => .error (.crew fault)
  | .ok files => (Report.write files title).mapError .rule

end DocAudit
