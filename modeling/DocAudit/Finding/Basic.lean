import DocAudit.Text.Basic

/-! # Findings

    A finding says that a piece of documentation breaks a clause of the
    documentation standard.  Its severity is one of the three requirement words, and
    its rule is the dotted number of the clause. -/

namespace DocAudit

/-- The three requirement words, from the strongest to the weakest. -/
inductive Severity where
  | must
  | should
  | may
  deriving Repr, DecidableEq, Inhabited

namespace Severity

/-- The requirement word. -/
def name : Severity → Text
  | .must => "MUST"
  | .should => "SHOULD"
  | .may => "MAY"

/-- The severity of a requirement word. -/
def ofName? (t : Text) : Option Severity :=
  [Severity.must, .should, .may].find? fun severity => severity.name == t

@[simp] theorem ofName?_name (severity : Severity) : ofName? severity.name = some severity := by
  cases severity <;> decide

/-- The position in the order of findings, the strongest first. -/
def order : Severity → Nat
  | .must => 0
  | .should => 1
  | .may => 2

end Severity

/-- One broken clause at one place. -/
structure Finding where
  severity : Severity
  rule : Text
  place : Text
  message : Text
  deriving Repr, DecidableEq, Inhabited

/-- How many findings there are of each severity. -/
structure Tally where
  must : Nat := 0
  should : Nat := 0
  may : Nat := 0
  deriving Repr, DecidableEq, Inhabited

namespace Tally

/-- Count one more finding. -/
def add (tally : Tally) (finding : Finding) : Tally :=
  match finding.severity with
  | .must => { tally with must := tally.must + 1 }
  | .should => { tally with should := tally.should + 1 }
  | .may => { tally with may := tally.may + 1 }

/-- Count findings. -/
def of (findings : List Finding) : Tally := findings.foldl add {}

/-- The number of findings of any severity. -/
def total (tally : Tally) : Nat := tally.must + tally.should + tally.may

@[simp] theorem total_add (tally : Tally) (finding : Finding) :
    (tally.add finding).total = tally.total + 1 := by
  cases h : finding.severity <;> simp only [add, h, total] <;> omega

theorem total_foldl_add (findings : List Finding) (tally : Tally) :
    (findings.foldl add tally).total = tally.total + findings.length := by
  induction findings generalizing tally with
  | nil => rfl
  | cons finding rest ih =>
      rw [List.foldl_cons, ih, total_add, List.length_cons]
      omega

/-- Every finding is counted ONCE. -/
theorem total_of (findings : List Finding) : (of findings).total = findings.length := by
  rw [of, total_foldl_add]
  exact Nat.zero_add _

/-- A strict audit fails as soon as something that must hold does not. -/
def fails (tally : Tally) (strict : Bool) : Bool := strict && decide (0 < tally.must)

end Tally

end DocAudit
