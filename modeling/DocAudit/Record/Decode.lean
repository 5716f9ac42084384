import DocAudit.Record.Basic
import DocAudit.Record.Line

/-! # Reading records

    Records come as a JSON array of objects.  Every member is checked by itself,
    so that one fault hides no other; only the order of an element's lines is
    looked at last, when all its members are valid.

    Three members have a second name, which is looked at only if the first is
    ABSENT.  Members with other names are ignored. -/

namespace DocAudit

open Text

namespace Record

/-! ## Texts -/

/-- The kind of an element. -/
def kind : Json.Value → Except Problem Kind
  | .text t =>
      match Kind.ofName? t with
      | some kind => .ok kind
      | none => .error .unknownKind
  | _ => .error .unknownKind

/-- A text that is not empty. -/
def name : Json.Value → Except Problem Text
  | .text [] => .error .emptyText
  | .text t => .ok t
  | _ => .error .notText

/-- A text or nothing. -/
def optionalText : Json.Value → Except Problem (Option Text)
  | .null => .ok none
  | .text t => .ok (some t)
  | _ => .error .notText

/-! ## Members -/

/-- An object's members. -/
abbrev Members := List (Text × Json.Value)

/-- The value under the first of the names that is present, with that name. -/
def find? (members : Members) : List Text → Option (Text × Json.Value)
  | [] => none
  | key :: others =>
      match Json.member? key members with
      | some value => some (key, value)
      | none => find? members others

/-- Check a member that has to be there; it is reported missing under its first name. -/
def required {α : Type} (members : Members) (key : Text) (others : List Text)
    (check : Json.Value → Except Problem α) : Checked α :=
  match find? members (key :: others) with
  | none => Checked.under (.name key) (Checked.complain .missing)
  | some (key, value) =>
      match check value with
      | .ok a => .ok a
      | .error problem => Checked.under (.name key) (Checked.complain problem)

/-- Check a member that may be absent. -/
def optional (members : Members) (key : Text) (others : List Text) : Checked (Option Text) :=
  match find? members (key :: others) with
  | none => .ok none
  | some (key, value) =>
      match optionalText value with
      | .ok t => .ok t
      | .error problem => Checked.under (.name key) (Checked.complain problem)

/-- Lines in the right order. -/
def ordered (record : RecordedElement) : Checked RecordedElement :=
  if record.endLine < record.startLine then
    Checked.complain (.reversed record.startLine record.endLine)
  else .ok record

/-- The members of an element, in the order in which they are checked. -/
def elementMembers (members : Members) : Checked RecordedElement :=
  ((required members "kind" [] kind).and
    ((required members "name" [] name).and
      ((optional members "namespace" []).and
        ((required members "startLine" ["start_line"] line).and
          ((required members "endLine" ["end_line"] line).and
            (optional members "rawComment" ["raw_comment"])))))).map
    fun (kind, name, scope, startLine, endLine, raw) =>
      ⟨kind, name, scope, startLine, endLine, raw⟩

/-- An element. -/
def element : Json.Value → Checked RecordedElement
  | .object members =>
      match elementMembers members with
      | .ok record => ordered record
      | .error complaints => .error complaints
  | _ => Checked.complain .notObject

/-- A list of elements. -/
def elements : Json.Value → Checked (List RecordedElement)
  | .array items => Checked.each element 0 items
  | _ => Checked.complain .notArray

/-- The elements of a file, none if the member is absent. -/
def elementsMember (members : Members) : Checked (List RecordedElement) :=
  match Json.member? "elements" members with
  | none => .ok []
  | some value => Checked.under (.name "elements") (elements value)

/-- A file. -/
def file : Json.Value → Checked RecordedFile
  | .object members =>
      ((required members "file" [] name).and (elementsMember members)).map
        fun (file, elements) => ⟨file, elements⟩
  | _ => Checked.complain .notObject

/-- A list of files. -/
def files : Json.Value → Checked (List RecordedFile)
  | .array items => Checked.each file 0 items
  | _ => Checked.complain .notArray

/-! ## Texts with records -/

/-- Why a text holds no records. -/
inductive Fault where
  /-- The text is no JSON. -/
  | notJson
  /-- The JSON value is no list of records. -/
  | invalid (complaints : List Complaint)
  deriving Repr, DecidableEq

/-- How many faults the text has; what is no JSON has one. -/
def Fault.count : Fault → Nat
  | .notJson => 1
  | .invalid complaints => complaints.length

/-- The headline of the report on a faulty text. -/
def Fault.message (fault : Fault) : Text :=
  "Invalid element records: " ++ Numeral.ofNat fault.count ++ " validation error"
    ++ (if fault.count = 1 then [] else ['s']) ++ " for list[FileRecord]"

/-- Read a text that holds records. -/
def read (t : Text) : Except Fault (List RecordedFile) :=
  match Json.read? t with
  | none => .error .notJson
  | some value => (files value).mapError .invalid

end Record

end DocAudit
