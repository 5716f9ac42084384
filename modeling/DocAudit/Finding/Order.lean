import DocAudit.Finding.Basic
import DocAudit.Text.Digit
import DocAudit.Text.Quoted

/-! # The order of findings

    Findings are listed by severity, then by rule, and otherwise in the order in
    which they were found.  Rules compare SEGMENT BY SEGMENT, so that clause 2.3
    comes before clause 10.1: a segment of digits counts as a number, numbers come
    before words, and a rule comes before its own sub-clauses.

    A segment of digits that is no numeral has no place in this order; listing a
    finding under such a rule fails. -/

namespace DocAudit

open Text

/-- A segment of a dotted rule. -/
inductive Segment where
  | number (n : Nat)
  | word (t : Text)
  deriving Repr, DecidableEq

/-- Why a segment of digits is no numeral. -/
inductive SegmentFault where
  /-- A character is a digit by shape only. -/
  | notDecimal (segment : Text)
  /-- The numeral has this many digits, more than the limit. -/
  | tooLong (digits : Nat)
  deriving Repr, DecidableEq

/-- The fault in words; of the segment, quoted, at most 200 characters are shown. -/
def SegmentFault.message : SegmentFault → Text
  | .notDecimal segment =>
      "invalid literal for int() with base 10: " ++ (quoted segment).take 200
  | .tooLong digits =>
      "Exceeds the limit (" ++ Numeral.ofNat Numeral.digitLimit
        ++ " digits) for integer string conversion: value has " ++ Numeral.ofNat digits
        ++ " digits; use sys.set_int_max_str_digits() to increase the limit"

namespace Segment

/-- The segment is written with digits only. -/
def isDigits (t : Text) : Bool := !t.isEmpty && t.all isDigitLike

/-- The decimal places at the beginning of a text. -/
def leadingPlaces (t : Text) : List Nat :=
  (t.takeWhile fun c => (decimalValue? c).isSome).filterMap decimalValue?

/-- Read a segment. -/
def read (t : Text) : Except SegmentFault Segment :=
  if isDigits t then
    let places := leadingPlaces t
    if Numeral.digitLimit < places.length then .error (.tooLong places.length)
    else if places.length < t.length then .error (.notDecimal t)
    else .ok (.number (Numeral.value places))
  else .ok (.word t)

/-- Numbers by size, then words by code points. -/
def le : Segment → Segment → Bool
  | .number m, .number n => m ≤ n
  | .number _, .word _ => true
  | .word _, .number _ => false
  | .word t, .word u => Text.le t u

end Segment

/-- The segments of a rule. -/
abbrev RuleNumber := List Segment

namespace RuleNumber

/-- The segments of a dotted rule, or the first that cannot be read. -/
def ofRule (rule : Text) : Except SegmentFault RuleNumber := (splitOn '.' rule).mapM Segment.read

/-- Segment by segment; a key comes before every key that it begins. -/
def le : RuleNumber → RuleNumber → Bool
  | [], _ => true
  | _ :: _, [] => false
  | s :: rest, s' :: rest' => if s = s' then le rest rest' else s.le s'

end RuleNumber

namespace Finding

/-- A finding with the key that it is listed under. -/
structure Keyed where
  key : RuleNumber
  finding : Finding
  deriving Repr, DecidableEq

/-- Look up the key of a finding. -/
def keyed (finding : Finding) : Except SegmentFault Keyed :=
  (RuleNumber.ofRule finding.rule).map fun key => ⟨key, finding⟩

/-- By severity, then by rule. -/
def Keyed.le (a b : Keyed) : Bool :=
  if a.finding.severity = b.finding.severity then a.key.le b.key
  else a.finding.severity.order ≤ b.finding.severity.order

/-- List findings by severity and rule; findings that are equal in both keep their order. -/
def sort (findings : List Finding) : Except SegmentFault (List Finding) :=
  (findings.mapM keyed).map fun keys => (keys.mergeSort Keyed.le).map (·.finding)

end Finding

end DocAudit
