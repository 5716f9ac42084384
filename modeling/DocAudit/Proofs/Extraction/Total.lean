import DocAudit.Extraction.Basic
import DocAudit.Proofs.Record.Accepted
import DocAudit.Proofs.Report.Agreement

/-! # Extraction is total — from records to a report nothing can fail

    A malformed comment is no fault of the file that holds it: its element keeps the text
    and goes without a structured form (`doc?_eq_some_iff`).  So the files are there whenever
    a crew can be formed, one element for one record and in the same order, and the clauses
    that findings are made under all have a place in the order of findings.

    The price of a comment that is absent or malformed is ONE finding, and no finding about
    a comment that was read is worded like it (`wording_of_mem_check`). -/

namespace DocAudit

open Text

/-! ## The finding about an element without a readable comment -/

namespace Subject

variable {subject : Subject} {finding : Finding}

/-- The finding that there is no readable comment. -/
def undocumented (subject : Subject) : Finding :=
  ⟨.must, "1.1", subject.address,
    "Element " ++ subject.quotedName ++ " (" ++ subject.kind.name ++ ") lacks documentation"⟩

/-- How the findings about a comment that was read are worded. -/
inductive Wording (subject : Subject) : Text → Prop where
  | labelled (complaint : Text) :
      Wording subject (subject.kind.display ++ " " ++ subject.quotedName ++ " " ++ complaint)
  | summary (complaint : Text) :
      Wording subject
        ("Summary for " ++ subject.kind.name ++ " " ++ subject.quotedName ++ " " ++ complaint)
  | deprecated :
      Wording subject
        ("Deprecated " ++ subject.kind.name ++ " " ++ subject.quotedName
          ++ " should reference replacement")

/-- Every finding about a comment that was read has one of three wordings. -/
theorem wording_of_mem_check {doc : Comment} (h : finding ∈ subject.check (some doc)) :
    Wording subject finding.message := by
  cases made_of_mem_check h with
  | labelled severity hrule hcomplaint => exact .labelled _
  | summary hcomplaint => exact .summary _
  | deprecated => exact .deprecated

/-- None of the wordings begins like the finding that there is no comment. -/
theorem Wording.head?_ne {message : Text} (h : Wording subject message) :
    message.head? ≠ some 'E' := by
  cases h with
  | labelled complaint =>
      have hdisplay : subject.kind.display ≠ [] ∧ subject.kind.display.head? ≠ some 'E' := by
        cases subject.kind <;> decide
      simp only [List.append_assoc]
      rw [List.head?_append_of_ne_nil _ hdisplay.1]
      exact hdisplay.2
  | summary complaint =>
      simp only [List.append_assoc]
      rw [List.head?_append_of_ne_nil _ (by decide)]
      decide
  | deprecated =>
      simp only [List.append_assoc]
      rw [List.head?_append_of_ne_nil _ (by decide)]
      decide

/-- **ONE FINDING SAYS IT**: there is no readable comment exactly if the only finding is
    that there is none. -/
theorem check_eq_undocumented_iff {doc : Option Comment} :
    subject.check doc = [subject.undocumented] ↔ doc = none := by
  cases doc with
  | none => exact ⟨fun _ => rfl, fun _ => rfl⟩
  | some doc =>
      refine ⟨fun h => ?_, nofun⟩
      have hmem : subject.undocumented ∈ subject.check (some doc) := by
        rw [h]
        exact List.mem_singleton_self _
      exact absurd rfl (wording_of_mem_check hmem).head?_ne

end Subject

/-! ## Records and elements -/

namespace RecordedElement

variable {record : RecordedElement}

/-- A record has a structured comment exactly if its comment can be read. -/
theorem doc?_eq_some_iff {doc : Comment} :
    record.doc? = some doc ↔ ∃ raw, record.raw = some raw ∧ Comment.parse raw = .ok doc := by
  rw [doc?, Option.bind_eq_some_iff]
  refine exists_congr fun raw => and_congr_right fun _ => ?_
  cases Comment.parse raw with
  | error fault => simp [Except.toOption]
  | ok read => simp [Except.toOption]

/-- The element stands for the record: it says the same, has a structured comment exactly if
    the comment of the record can be read, and is one that can be built. -/
structure Yields (path : Text) (record : RecordedElement) (element : Element) : Prop where
  kind : element.kind = record.kind
  name : element.name = record.name
  scope : element.scope = record.scope
  raw : element.raw = record.raw
  place : element.place = ⟨path, record.startLine, record.endLine⟩
  doc : ∀ doc, element.doc = some doc ↔
    ∃ raw, record.raw = some raw ∧ Comment.parse raw = .ok doc
  built : Element.build record.kind record.name ⟨path, record.startLine, record.endLine⟩
    record.scope record.raw element.doc = .ok element
  undocumented : element.doc = none ↔ element.findings = [element.subject.undocumented]

theorem yields_extract (path : Text) (record : RecordedElement) :
    Yields path record (record.extract path) where
  kind := rfl
  name := rfl
  scope := rfl
  raw := rfl
  place := rfl
  doc := fun _ => doc?_eq_some_iff
  built := dif_pos record.raw_isSome_of_doc?
  undocumented := Subject.check_eq_undocumented_iff.symm

end RecordedElement

/-- The source file stands for the record, element by element. -/
structure RecordedFile.Yields (record : RecordedFile) (file : SourceFile) : Prop where
  path : file.path = record.file
  elements : List.Forall₂ (RecordedElement.Yields record.file) record.elements file.elements

theorem RecordedFile.yields_extract (record : RecordedFile) : record.Yields record.extract where
  path := rfl
  elements := by
    rw [RecordedFile.extract, List.forall₂_map_right_iff]
    exact List.forall₂_same.mpr fun element _ => element.yields_extract record.file

/-! ## The report -/

section Report

variable {workers : Option Int} (hworkers : ∀ n, workers = some n → 1 ≤ n)

include hworkers

/-- A crew that can be formed extracts every file. -/
theorem extractAll_eq_ok (records : List RecordedFile) :
    extractAll workers records = .ok (records.map RecordedFile.extract) := by
  have hcrew : workers.any (· < 1) = false := by
    cases hw : workers with
    | none => rfl
    | some n =>
        have := hworkers n hw
        simp only [Option.any_some, decide_eq_false_iff_not]
        omega
  rw [extractAll, hcrew]
  by_cases hnil : records = []
  · rw [if_pos hnil, hnil]
    rfl
  · rw [if_neg hnil]
    rfl

/-- The crew leaves no trace in the report. -/
theorem exportReport_eq (title : Text) (records : List RecordedFile) :
    exportReport workers title records
      = (Report.write (records.map RecordedFile.extract) title).mapError .rule := by
  rw [exportReport, extractAll_eq_ok hworkers]

/-- **NOTHING CAN FAIL**: whatever the records and their comments, a crew that can be formed
    extracts one file for one record, the findings about them can be listed, and the report is
    written. -/
theorem exportReport_total (title : Text) (records : List RecordedFile) :
    ∃ files sorted report, extractAll workers records = .ok files ∧
      List.Forall₂ RecordedFile.Yields records files ∧
      Finding.sort (files.flatMap SourceFile.findings) = .ok sorted ∧
      report.findings = files.flatMap SourceFile.findings ∧
      Report.write files title = .ok report ∧
      exportReport workers title records = .ok report := by
  obtain ⟨_, -, hwrite⟩ := Report.exists_write_eq_ok (records.map RecordedFile.extract) title
  obtain ⟨sorted, hsort, -⟩ := Checked.map_eq_ok.mp hwrite
  have hyields : List.Forall₂ RecordedFile.Yields records (records.map RecordedFile.extract) :=
    List.forall₂_map_right_iff.mpr (List.forall₂_same.mpr fun record _ => record.yields_extract)
  refine ⟨_, sorted, _, extractAll_eq_ok hworkers records, hyields, hsort, rfl, hwrite, ?_⟩
  rw [exportReport_eq hworkers, hwrite]
  rfl

end Report

/-- Two files: one with a class whose comment names no tag and a method without a comment, one
    without elements. -/
def unreadable : List RecordedFile :=
  [⟨"a.php", [⟨.cls, "A", some "N", 1, 9, some "/** @ */"⟩, ⟨.method, "m", none, 2, 3, none⟩]⟩,
    ⟨"b.php", []⟩]

/-- A crew of two writes the report on files without a single readable comment, with one finding
    for each element. -/
theorem exportReport_total_unreadable :
    (∀ n, some (2 : Int) = some n → 1 ≤ n) ∧
    ∃ files report, extractAll (some 2) unreadable = .ok files ∧
      List.Forall₂ RecordedFile.Yields unreadable files ∧
      exportReport (some 2) "T" unreadable = .ok report ∧
      report.findings = [Subject.undocumented ⟨.cls, "A", "a.php:1"⟩,
        Subject.undocumented ⟨.method, "m", "a.php:2"⟩] := by
  have hworkers : ∀ n, some (2 : Int) = some n → 1 ≤ n := by
    rintro n ⟨⟩
    decide
  obtain ⟨files, -, report, hfiles, hyields, -, hfindings, -, hreport⟩ :=
    exportReport_total hworkers "T" unreadable
  refine ⟨hworkers, files, report, hfiles, hyields, hreport, ?_⟩
  obtain rfl : unreadable.map RecordedFile.extract = files := Except.ok.inj hfiles
  rw [hfindings]
  decide +kernel

end DocAudit
