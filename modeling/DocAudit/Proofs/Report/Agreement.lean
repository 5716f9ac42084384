import DocAudit.Proofs.Finding.Order
import DocAudit.Report.Document

/-! # Agreement — findings, counts and appendix tell the same

    A report shows its findings three times: as a list in the order in which they were
    made, as a tally, and as the table of its appendix.  All three are views of ONE list, the
    findings of the files in their order.

    The list can also be made while the report is being written, in a pass over the files
    that checks each element as it writes its section and goes on at once after a file
    without elements (`writeOnce`).  A file adds its lines and its findings to the draft and
    nothing else (`addFile_eq`), so the pass gives the same report. -/

namespace DocAudit.Report

open Text

/-- The note on a file without elements. -/
def noElements : Text := "*No documentable elements.*"

/-- The note on files without findings. -/
def noFindings : Text := "*No violations found.*"

/-! ## One pass over the files -/

/-- What has been written so far, and the findings made on the way. -/
structure Draft where
  lines : List Text
  findings : List Finding

namespace Draft

/-- Check an element and write its section. -/
def addElement (draft : Draft) (element : Element) : Draft :=
  ⟨draft.lines ++ elementLines element, draft.findings ++ element.findings⟩

/-- Write the section of a file. -/
def addFile (draft : Draft) (file : SourceFile) : Draft :=
  let opened : Draft := ⟨draft.lines ++ ["## " ++ file.path, []], draft.findings⟩
  if file.elements = [] then ⟨opened.lines ++ [noElements, []], opened.findings⟩
  else file.elements.foldl addElement opened

/-- The appendix: the findings are counted as they come and then listed. -/
def appendix (findings : List Finding) : Except SegmentFault (List Text) :=
  if findings = [] then .ok [appendixHeading, [], noFindings, []]
  else
    (Finding.sort findings).map fun sorted =>
      [appendixHeading, [], tallyLine (Tally.of findings), []] ++ tableHead
        ++ sorted.map findingRow ++ [[]]

theorem foldl_addElement (elements : List Element) (draft : Draft) :
    elements.foldl addElement draft
      = ⟨draft.lines ++ elements.flatMap elementLines,
        draft.findings ++ elements.flatMap Element.findings⟩ := by
  induction elements generalizing draft with
  | nil => simp
  | cons element rest ih =>
      rw [List.foldl_cons, ih, addElement]
      simp only [List.flatMap_cons, List.append_assoc]

/-- One file adds its lines and its findings. -/
theorem addFile_eq (draft : Draft) (file : SourceFile) :
    draft.addFile file = ⟨draft.lines ++ fileLines file, draft.findings ++ file.findings⟩ := by
  rw [addFile, fileLines, SourceFile.findings]
  cases file.elements with
  | nil =>
      rw [if_pos rfl, List.append_assoc]
      simp only [List.flatMap_nil, List.append_nil]
      rfl
  | cons element rest =>
      simp only [reduceCtorEq, if_false]
      rw [foldl_addElement, contentLines]
      · simp only [List.append_assoc]
      · exact nofun

theorem foldl_addFile (files : List SourceFile) (draft : Draft) :
    files.foldl addFile draft
      = ⟨draft.lines ++ files.flatMap fileLines,
        draft.findings ++ files.flatMap SourceFile.findings⟩ := by
  induction files generalizing draft with
  | nil => simp
  | cons file rest ih =>
      rw [List.foldl_cons, ih, addFile_eq]
      simp only [List.flatMap_cons, List.append_assoc]

end Draft

/-- Write the report in one pass over the files. -/
def writeOnce (files : List SourceFile) (title : Text) : Except SegmentFault Report :=
  let draft := files.foldl Draft.addFile ⟨headerLines files title, []⟩
  (Draft.appendix draft.findings).map fun appendix =>
    { document := joinLines (draft.lines ++ appendix)
      findings := draft.findings
      tally := Tally.of draft.findings }

/-- Findings count the same in any order. -/
theorem tally_of_perm {xs ys : List Finding} (h : xs.Perm ys) : Tally.of xs = Tally.of ys := by
  rw [Tally.of_eq, Tally.of_eq, h.countP_eq, h.countP_eq, h.countP_eq]

theorem tableLines_of_ne_nil {sorted : List Finding} (h : sorted ≠ []) :
    tableLines sorted
      = [tallyLine (Tally.of sorted), []] ++ tableHead ++ sorted.map findingRow ++ [[]] := by
  cases sorted with
  | nil => exact absurd rfl h
  | cons finding rest => rfl

/-- Counting before or after listing makes no difference to the appendix. -/
theorem appendix_eq (findings : List Finding) :
    Draft.appendix findings = (Finding.sort findings).map appendixLines := by
  rw [Draft.appendix]
  by_cases hnil : findings = []
  · subst hnil
    rw [if_pos rfl, Finding.sort_nil]
    rfl
  · rw [if_neg hnil]
    cases hsort : Finding.sort findings with
    | error fault => rfl
    | ok sorted =>
        have hperm := Finding.perm_of_sort hsort
        have hsorted : sorted ≠ [] := by
          rintro rfl
          exact hnil hperm.nil_eq.symm
        show Except.ok _ = Except.ok _
        rw [appendixLines, tableLines_of_ne_nil hsorted, tally_of_perm hperm]
        rfl

/-- **ONE PASS IS ENOUGH**: it gives the same report, or fails in the same way. -/
theorem writeOnce_eq (files : List SourceFile) (title : Text) :
    writeOnce files title = write files title := by
  rw [writeOnce, write, Draft.foldl_addFile]
  simp only [List.nil_append, appendix_eq]
  cases Finding.sort (files.flatMap SourceFile.findings) with
  | error fault => rfl
  | ok sorted => rfl

/-! ## The parts of a report -/

/-- The section of a file: its heading and the sections of its elements. -/
structure Chapter where
  heading : Text
  sections : List (List Text)

/-- The lines of a section; a file without elements has a note instead. -/
def Chapter.lines (chapter : Chapter) : List Text :=
  [chapter.heading, []]
    ++ if chapter.sections = [] then [noElements, []] else chapter.sections.flatten

/-- The section that a file gets. -/
def chapterOf (file : SourceFile) : Chapter :=
  ⟨"## " ++ file.path, file.elements.map elementLines⟩

/-- The lines above the first section, for a report that is said to cover so many files and
    elements. -/
def preface (title : Text) (fileCount elementCount : Nat) : List Text :=
  ["<!-- AUTO-GENERATED by " ++ toolName ++ " " ++ toolVersion ++ ". DO NOT EDIT. -->", [],
    "# " ++ title, [],
    "Generated by " ++ toolName ++ " " ++ toolVersion ++ " from "
      ++ Numeral.ofNat fileCount ++ " file(s), " ++ Numeral.ofNat elementCount ++ " element(s).",
    []]

theorem lines_chapterOf (file : SourceFile) : (chapterOf file).lines = fileLines file := by
  rw [Chapter.lines, chapterOf, fileLines]
  cases file.elements with
  | nil => rfl
  | cons element rest =>
      rw [contentLines, List.flatMap_def]
      · simp
      · exact nofun

theorem elementCount_eq (files : List SourceFile) :
    SourceFile.elementCount files = ((files.map chapterOf).flatMap (·.sections)).length := by
  induction files with
  | nil => rfl
  | cons file rest ih =>
      rw [SourceFile.elementCount, ih, List.map_cons, List.flatMap_cons, List.length_append]
      simp [chapterOf]

theorem headerLines_eq (files : List SourceFile) (title : Text) :
    headerLines files title = preface title (files.map chapterOf).length
      ((files.map chapterOf).flatMap (·.sections)).length := by
  rw [← elementCount_eq, List.length_map]
  rfl

/-- The parts of a document that hang together: the sections of its files, the findings in the
    rows of its table, and the lines that its appendix has below the heading. -/
structure Layout where
  chapters : List Chapter
  rows : List Finding
  table : List Text

/-- The lines of a document that is laid out so. -/
def Layout.lines (layout : Layout) (title : Text) : List Text :=
  preface title layout.chapters.length (layout.chapters.flatMap (·.sections)).length
    ++ layout.chapters.flatMap Chapter.lines ++ [appendixHeading, []] ++ layout.table

/-- The counts of findings, severity by severity. -/
def counts (findings : List Finding) : Tally :=
  ⟨findings.countP (·.severity = .must), findings.countP (·.severity = .should),
    findings.countP (·.severity = .may)⟩

/-- What a report on files shows is what the files have: every element has its section and
    its findings ONCE, the tally counts the findings, and the table lists them. -/
structure Consistent (files : List SourceFile) (title : Text) (report : Report) (layout : Layout) :
    Prop where
  findings : report.findings = files.flatMap SourceFile.findings
  tally : report.tally = counts report.findings
  total : report.tally.total = report.findings.length
  document : report.document = joinLines (layout.lines title)
  chapters : layout.chapters = files.map chapterOf
  rows : StableSort Finding.rank report.findings layout.rows
  table : report.findings ≠ [] → layout.table =
    [tallyLine (counts layout.rows), []] ++ tableHead ++ layout.rows.map findingRow ++ [[]]
  noTable : layout.table = [noFindings, []] ↔ report.findings = []

theorem tableLines_eq_iff (rows : List Finding) :
    tableLines rows = [noFindings, []] ↔ rows = [] := by
  cases rows with
  | nil => exact ⟨fun _ => rfl, fun _ => rfl⟩
  | cons finding rest =>
      constructor
      · intro h
        -- a table has a sentence, its head, a row and an empty line at least
        have hlength := congrArg List.length h
        simp [tableLines, tableHead] at hlength
      · exact nofun

/-- The findings about files can always be listed, so a report is always written. -/
theorem exists_write_eq_ok (files : List SourceFile) (title : Text) :
    ∃ sorted, StableSort Finding.rank (files.flatMap SourceFile.findings) sorted ∧
      write files title = .ok
        { document :=
            joinLines (headerLines files title ++ files.flatMap fileLines ++ appendixLines sorted)
          findings := files.flatMap SourceFile.findings
          tally := Tally.of (files.flatMap SourceFile.findings) } := by
  have hrules : ∀ finding ∈ files.flatMap SourceFile.findings, finding.rule ∈ clauseNumbers := by
    intro finding hfinding
    obtain ⟨_, _, _, _, habout⟩ := SourceFile.about_of_mem_findings hfinding
    exact habout.rule
  obtain ⟨sorted, hsort, hstable⟩ := Finding.stableSort_sort hrules
  refine ⟨sorted, hstable, ?_⟩
  rw [write, hsort]
  rfl

/-- **FINDINGS, COUNTS AND APPENDIX AGREE**: on any files a report is written, in one pass or
    not, and it is consistent. -/
theorem write_consistent (files : List SourceFile) (title : Text) :
    ∃ report layout, write files title = .ok report ∧ writeOnce files title = .ok report ∧
      Consistent files title report layout := by
  obtain ⟨sorted, hstable, hwrite⟩ := exists_write_eq_ok files title
  have hempty : sorted = [] ↔ files.flatMap SourceFile.findings = [] := by
    rw [← List.length_eq_zero_iff, ← List.length_eq_zero_iff, hstable.perm.length_eq]
  refine ⟨_, ⟨files.map chapterOf, sorted, tableLines sorted⟩, hwrite,
    (writeOnce_eq files title).trans hwrite, ?_⟩
  exact {
    findings := rfl
    tally := Tally.of_eq _
    total := Tally.total_of _
    document := by
      rw [Layout.lines, ← headerLines_eq, List.flatMap_map]
      simp only [lines_chapterOf, appendixLines, List.append_assoc]
    chapters := rfl
    rows := hstable
    table := by
      intro hne
      rw [tableLines_of_ne_nil fun hnil => hne (hempty.mp hnil), Tally.of_eq]
      rfl
    noTable := (tableLines_eq_iff sorted).trans hempty }

end DocAudit.Report
