import DocAudit.Element

/-! # Element records

    What a source parser hands over: for every file its path and its elements in
    the order of their declarations, an enclosing class before its members.  A record
    is VALID when nothing that needs a text has an empty one and lines count from one
    in the right order. -/

namespace DocAudit

/-- One element as the source parser saw it. -/
structure RecordedElement where
  kind : Kind
  name : Text
  scope : Option Text
  startLine : Nat
  endLine : Nat
  raw : Option Text
  deriving Repr, DecidableEq

/-- One file as the source parser saw it. -/
structure RecordedFile where
  file : Text
  elements : List RecordedElement
  deriving Repr, DecidableEq

/-- The element has a name, and its lines count from one and do not run backwards. -/
def RecordedElement.Valid (record : RecordedElement) : Prop :=
  record.name ≠ [] ∧ 1 ≤ record.startLine ∧ record.startLine ≤ record.endLine

/-- The file has a path and valid elements. -/
def RecordedFile.Valid (record : RecordedFile) : Prop :=
  record.file ≠ [] ∧ ∀ element ∈ record.elements, element.Valid

end DocAudit
