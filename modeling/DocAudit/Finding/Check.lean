import DocAudit.Element
import DocAudit.Finding.Basic
import DocAudit.Text.Case

/-! # The rules of the documentation standard

    The clauses that can be checked on a doc-comment alone:

    * 1.1  every element is documented; classes, interfaces, traits, methods and
           functions have a summary; classes, interfaces and traits name their package, the
           version they came with and whether they are public;
    * 1.3  the form of a class's summary;
    * 2.3  a property states its type;
    * 3.1  a method or function states what it returns;
    * 4.2  a deprecated element names its replacement.

    An element without a readable comment breaks clause 1.1 once and is not
    checked further.  Otherwise the clauses of its kind come first, in the order of
    the table, and clause 4.2 last. -/

namespace DocAudit

open Text

/-- The longest summary that is not too long. -/
def summaryLimit : Nat := 80

/-- What a finding is about: the element's kind and name and the reference to its place. -/
structure Subject where
  kind : Kind
  name : Text
  address : Text
  deriving Repr, DecidableEq

namespace Subject

/-- The element's name in quotes. -/
def quotedName (subject : Subject) : Text := "'" ++ subject.name ++ "'"

/-- A finding about the subject if `broken` holds, and none otherwise. -/
def report (subject : Subject) (broken : Bool) (severity : Severity) (rule message : Text) :
    List Finding :=
  if broken then [⟨severity, rule, subject.address, message⟩] else []

/-- A finding that begins with the capitalised kind and the name. -/
def reportLabelled (subject : Subject) (broken : Bool) (severity : Severity)
    (rule complaint : Text) : List Finding :=
  subject.report broken severity rule
    (subject.kind.display ++ " " ++ subject.quotedName ++ " " ++ complaint)

/-- A finding about the form of the summary. -/
def reportSummary (subject : Subject) (broken : Bool) (complaint : Text) : List Finding :=
  subject.report broken .should "1.3"
    ("Summary for " ++ subject.kind.name ++ " " ++ subject.quotedName ++ " " ++ complaint)

/-- The summary repeats the element's name: up to letter case, it begins with the name or
    holds it with a space after it. -/
def restates (subject : Subject) (summary : Text) : Bool :=
  occurs (lower subject.name ++ " ") (lower summary)
    || (lower subject.name).isPrefixOf (lower summary)

/-- The form of a summary: its length, its full stop, and that it says more than the name. -/
def summaryClauses (subject : Subject) (summary : Text) : List Finding :=
  subject.reportSummary (summaryLimit < summary.length)
      ("exceeds " ++ Numeral.ofNat summaryLimit ++ " characters")
    ++ subject.reportSummary (!endsWith "." summary) "should end with period"
    ++ subject.reportSummary (subject.restates summary) "should not restate element name"

/-- The doc-comment has no summary to show. -/
def lacksSummary (doc : Comment) : Bool := (doc.summary.getD []).isEmpty

/-- Clause 1.1 on summaries. -/
def presenceClause (subject : Subject) (doc : Comment) : List Finding :=
  subject.reportLabelled (lacksSummary doc) .must "1.1" "lacks short description"

/-- Clause 1.1 on one tag. -/
def markerClause (subject : Subject) (doc : Comment) (tag : Text) : List Finding :=
  subject.reportLabelled (!doc.has tag) .should "1.1" ("missing " ++ tag ++ " tag")

/-- The row of classes, interfaces and traits. -/
def typeClauses (subject : Subject) (doc : Comment) : List Finding :=
  (if lacksSummary doc then subject.presenceClause doc
    else subject.summaryClauses (doc.summary.getD []))
    ++ subject.markerClause doc "@package"
    ++ subject.markerClause doc "@since"
    ++ subject.reportLabelled (!doc.has "@api" && !doc.has "@internal") .should "1.1"
      "should have @api or @internal marker"

/-- The row of methods and functions.  What a function returns is stated even if it
    returns nothing. -/
def routineClauses (subject : Subject) (doc : Comment) : List Finding :=
  subject.presenceClause doc
    ++ subject.reportLabelled (!doc.has "@return") .should "3.1" "missing @return tag"

/-- The row of properties. -/
def propertyClauses (subject : Subject) (doc : Comment) : List Finding :=
  subject.reportLabelled (!doc.has "@var") .should "2.3" "missing @var tag"

/-- The notice of a deprecation points to something else to use. -/
def namesReplacement (notice : Text) : Bool := occurs "@see" notice || occurs "use " (lower notice)

/-- Clause 4.2, which looks at the FIRST deprecation tag only. -/
def deprecationClause (subject : Subject) (doc : Comment) : List Finding :=
  match doc.firstUnder? "@deprecated" with
  | none => []
  | some tag =>
      subject.report (!namesReplacement tag.value) .should "4.2"
        ("Deprecated " ++ subject.kind.name ++ " " ++ subject.quotedName
          ++ " should reference replacement")

/-- The clauses of the subject's kind. -/
def kindClauses (subject : Subject) (doc : Comment) : List Finding :=
  match subject.kind with
  | .cls | .interface | .trait => subject.typeClauses doc
  | .method | .function => subject.routineClauses doc
  | .property => subject.propertyClauses doc
  | .file => []

/-- All findings about a subject with the given comment. -/
def check (subject : Subject) : Option Comment → List Finding
  | none =>
      subject.report true .must "1.1"
        ("Element " ++ subject.quotedName ++ " (" ++ subject.kind.name ++ ") lacks documentation")
  | some doc => subject.kindClauses doc ++ subject.deprecationClause doc

end Subject

/-- What findings about an element say of it. -/
def Element.subject (element : Element) : Subject :=
  ⟨element.kind, element.name, element.place.address⟩

/-- The findings about one element. -/
def Element.findings (element : Element) : List Finding := element.subject.check element.doc

/-- The findings about the elements of a file, in their order. -/
def SourceFile.findings (file : SourceFile) : List Finding :=
  file.elements.flatMap Element.findings

end DocAudit
