import DocAudit.Finding.Check
import DocAudit.Finding.Order
import DocAudit.Report.Entry

/-! # The report

    One Markdown document: a title, a section for every file with a sub-section for
    every element, and an appendix of findings.

    A doc-comment is shown as written, inside a fence that is LONGER than every
    run of grave accents in it, so that no comment can end its own fence. -/

namespace DocAudit

/-- The program's name. -/
def toolName : Text := "phpdoc-exporter"

/-- The program's version. -/
def toolVersion : Text := "1.0.0"

/-- A written report, with the findings in the order in which they were made. -/
structure Report where
  document : Text
  findings : List Finding
  tally : Tally
  deriving Repr, DecidableEq

namespace Report

open Text

/-- The length of the longest run of grave accents, when `run` of them have just been
    passed. -/
def longestRun (run : Nat) : Text → Nat
  | [] => run
  | c :: rest => if c = backtick then longestRun (run + 1) rest else max run (longestRun 0 rest)

/-- The fence for a text: at least three grave accents and one more than in the text. -/
def fence (t : Text) : Text := List.replicate (max 3 (longestRun 0 t + 1)) backtick

/-- Members of a class have a lower heading than everything else. -/
def headingMark : Kind → Text
  | .method | .property => "####"
  | _ => "###"

/-- The heading of an element. -/
def elementHeading (element : Element) : Text :=
  headingMark element.kind ++ " " ++ element.kind.display ++ " " ++ code element.name

/-- The comment as it is shown: without trailing blanks, and empty if there is none. -/
def shownComment (element : Element) : Text := trimRight (element.raw.getD [])

/-- The lines that name the element's namespace. -/
def scopeLines (element : Element) : List Text :=
  match element.scope.getD [] with
  | [] => []
  | scope => ["*Namespace: " ++ code scope ++ "*", []]

/-- The comment in its fence. -/
def fencedLines (raw : Text) : List Text :=
  (fence raw ++ "php") :: (if raw = [] then [] else [raw]) ++ [fence raw, []]

/-- The line that names the element's place. -/
def sourceLine (place : Place) : Text :=
  "*Source: " ++ place.file ++ ":" ++ Numeral.ofInt place.startLine ++ "-"
    ++ Numeral.ofInt place.endLine ++ "*"

/-- The sub-section of an element. -/
def elementLines (element : Element) : List Text :=
  [elementHeading element, []]
    ++ scopeLines element
    ++ fencedLines (shownComment element)
    ++ (element.doc.map breakdown).getD []
    ++ [sourceLine element.place, [], "---", []]

/-- The sub-sections of a file, or a note that it has none. -/
def contentLines : List Element → List Text
  | [] => ["*No documentable elements.*", []]
  | elements => elements.flatMap elementLines

/-- The section of a file. -/
def fileLines (file : SourceFile) : List Text :=
  ["## " ++ file.path, []] ++ contentLines file.elements

/-- A text inside a table, its bars escaped. -/
def escapeBars (t : Text) : Text := t.flatMap fun c => if c = '|' then ['\\', '|'] else [c]

/-- A row of the table of findings. -/
def findingRow (finding : Finding) : Text :=
  "| " ++ finding.severity.name ++ " | " ++ finding.rule ++ " | " ++ code finding.place ++ " | "
    ++ escapeBars finding.message ++ " |"

/-- The sentence that counts the findings. -/
def tallyLine (tally : Tally) : Text :=
  Numeral.ofNat tally.must ++ " MUST violation(s), " ++ Numeral.ofNat tally.should
    ++ " SHOULD improvement(s), " ++ Numeral.ofNat tally.may ++ " MAY suggestion(s)."

/-- The heading of the appendix. -/
def appendixHeading : Text := "## Violations"

/-- The two lines above the rows of the table. -/
def tableHead : List Text :=
  ["| Level | Rule | Location | Message |",
   "|-------|------|----------|---------|"]

/-- The table of findings in its order, or a note that there are none. -/
def tableLines : List Finding → List Text
  | [] => ["*No violations found.*", []]
  | sorted =>
      [tallyLine (Tally.of sorted), []] ++ tableHead ++ sorted.map findingRow ++ [[]]

/-- The appendix of findings, which come in the order of the table. -/
def appendixLines (sorted : List Finding) : List Text :=
  [appendixHeading, []] ++ tableLines sorted

/-- The title and what the report was made from. -/
def headerLines (files : List SourceFile) (title : Text) : List Text :=
  ["<!-- AUTO-GENERATED by " ++ toolName ++ " " ++ toolVersion ++ ". DO NOT EDIT. -->", [],
    "# " ++ title, [],
    "Generated by " ++ toolName ++ " " ++ toolVersion ++ " from "
      ++ Numeral.ofNat files.length ++ " file(s), "
      ++ Numeral.ofNat (SourceFile.elementCount files) ++ " element(s).", []]

/-- Write the report on a list of files.  It fails only if a finding has a rule that has
    no place in the order of findings. -/
def write (files : List SourceFile) (title : Text) : Except SegmentFault Report :=
  let findings := files.flatMap SourceFile.findings
  (Finding.sort findings).map fun sorted =>
    { document :=
        joinLines (headerLines files title ++ files.flatMap fileLines ++ appendixLines sorted)
      findings := findings
      tally := Tally.of findings }

end Report

end DocAudit
