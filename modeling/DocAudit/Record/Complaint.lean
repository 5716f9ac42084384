import DocAudit.Text.Numeral

/-! # Complaints about records

    A list of records is checked as a whole, and every fault is reported with its
    LOCATION: the path of indices and member names that leads to it.  Checks that
    do not depend on each other are combined with `Checked.and`, which keeps the
    complaints of both. -/

namespace DocAudit

open Text

/-- What is wrong with a value. -/
inductive Problem where
  | notArray
  | notObject
  | missing
  | notText
  | emptyText
  | unknownKind
  | notNumber
  | notNumeral
  | fractional
  | notFinite
  | tooLarge
  | belowOne
  | reversed (startLine endLine : Nat)
  deriving Repr, DecidableEq

/-- The problem in words. -/
def Problem.message : Problem → Text
  | .notArray => "Input should be a valid array"
  | .notObject => "Input should be an object"
  | .missing => "Field required"
  | .notText => "Input should be a valid string"
  | .emptyText => "String should have at least 1 character"
  | .unknownKind =>
      "Input should be 'file', 'class', 'interface', 'trait', 'method', 'function' or 'property'"
  | .notNumber => "Input should be a valid integer"
  | .notNumeral => "Input should be a valid integer, unable to parse string as an integer"
  | .fractional => "Input should be a valid integer, got a number with a fractional part"
  | .notFinite => "Input should be a finite number"
  | .tooLarge => "Unable to parse input string as an integer, exceeded maximum size"
  | .belowOne => "Input should be greater than or equal to 1"
  | .reversed startLine endLine =>
      "Value error, endLine " ++ Numeral.ofNat endLine ++ " is before startLine "
        ++ Numeral.ofNat startLine

/-- One step on the way into a value. -/
inductive Step where
  | index (n : Nat)
  | name (key : Text)
  deriving Repr, DecidableEq

/-- A problem and where it is. -/
structure Complaint where
  location : List Step
  problem : Problem
  deriving Repr, DecidableEq

/-- A value, or all complaints about it. -/
abbrev Checked (α : Type) := Except (List Complaint) α

namespace Checked

/-- Complain about the value at hand. -/
def complain {α : Type} (problem : Problem) : Checked α := .error [⟨[], problem⟩]

/-- The outcome of a check one step further out. -/
def under {α : Type} (step : Step) (checked : Checked α) : Checked α :=
  checked.mapError fun complaints =>
    complaints.map fun complaint => { complaint with location := step :: complaint.location }

/-- Two independent checks: both values, or the complaints of BOTH in order. -/
def and {α β : Type} (first : Checked α) (second : Checked β) : Checked (α × β) :=
  match first, second with
  | .ok a, .ok b => .ok (a, b)
  | .ok _, .error complaints => .error complaints
  | .error complaints, .ok _ => .error complaints
  | .error complaints, .error more => .error (complaints ++ more)

/-- Check the items of a list, which are numbered from `index`. -/
def each {α β : Type} (check : α → Checked β) (index : Nat) : List α → Checked (List β)
  | [] => .ok []
  | a :: rest =>
      (((check a).under (.index index)).and (each check (index + 1) rest)).map
        fun (b, bs) => b :: bs

end Checked

end DocAudit
