import DocAudit.Binary64
import DocAudit.Json.Reader
import DocAudit.Record.Complaint

/-! # Line numbers

    Line numbers are read generously: an integer of any size, a decimal fraction
    or a truth value that is equal to an integer, or a text that holds a numeral.

    A numeral in a text is a JSON integer after TIDYING: white space around it goes,
    as do a plus sign, leading zeros with the underscores among them, a point with
    nothing but zeros after it, and single underscores.  Zeros may also stand
    in front of a minus sign. -/

namespace DocAudit

open Text

namespace Record

/-- A line number counts from one. -/
def atLeastOne (n : Int) : Except Problem Nat :=
  if 1 ≤ n then .ok n.toNat else .error .belowOne

/-! ## Numerals in texts -/

/-- The text without a point and a run of zeros at its end. -/
def dropPointZeros (t : Text) : Text :=
  match (t.reverse.dropWhile (· == '0')), t.reverse.head? with
  | '.' :: whole, some '0' => whole.reverse
  | _, _ => t

/-- A digit other than zero. -/
def isLeadingDigit (c : Char) : Bool := c.isDigit && c != '0'

/-- Stands among leading zeros. -/
def isPadding (c : Char) : Bool := c == '0' || c == '_'

/-- The text without leading zeros and the underscores after the first of them, or its last
    character if it is made of these alone.  What is left begins with a digit, or with
    a minus sign if zeros stood before it. -/
def dropPadding? : Text → Option Text
  | [] => none
  | c :: rest =>
      if isLeadingDigit c then some (c :: rest)
      else if c = '0' then
        match rest.dropWhile isPadding with
        | [] => some [rest.getLast?.getD c]
        | d :: more => if isLeadingDigit d || d == '-' then some (d :: more) else none
      else none

/-- Two underscores stand side by side. -/
def hasDoubleUnderscore : Text → Bool
  | '_' :: '_' :: _ => true
  | _ :: rest => hasDoubleUnderscore rest
  | [] => false

/-- The text without underscores, each of which has to stand alone between two other
    characters. -/
def dropUnderscores? (t : Text) : Option Text :=
  if t.head? = some '_' ∨ t.getLast? = some '_' ∨ hasDoubleUnderscore t then none
  else some (t.filter (· != '_'))

/-- The text with a minus sign in front if the number is negative. -/
def withSign (negative : Bool) (t : Text) : Text := if negative then '-' :: t else t

/-- The plain numeral that a text stands for. -/
def tidy? (t : Text) : Option Text :=
  let (negative, numeral) := Numeral.splitSign (trimBy isWhite t)
  match dropPadding? (dropPointZeros numeral) with
  | none => none
  | some plain => dropUnderscores? (withSign negative plain)

/-- The value of a plain numeral, which is written like a JSON integer. -/
def plainInteger? (t : Text) : Option Int :=
  match Json.number? t with
  | some (.integer n, []) => some n
  | _ => none

/-- The text begins with a plain numeral of more digits than are ever read. -/
def isOverlong (t : Text) : Bool :=
  let digits := Json.leadingDigits (if t.head? = some '-' then t.drop 1 else t)
  digits.head? != some '0' && Numeral.digitLimit < digits.length

/-- The line number in a text.  A text is too large if it begins with too many digits, even
    if it is no numeral; one that has too many only after tidying is no numeral. -/
def lineOfText (t : Text) : Except Problem Nat :=
  if isOverlong t then .error .tooLarge
  else
    match (tidy? t).bind plainInteger? with
    | none => .error .notNumeral
    | some n => atLeastOne n

/-! ## Values -/

/-- The line number that a decimal fraction is equal to, once rounded to binary64.  One
    of 64 bits or more is refused. -/
def lineOfDecimal (d : Json.Decimal) : Except Problem Nat :=
  match Binary64.ofDecimal? d.mantissa d.exponent with
  | none => .error .notFinite
  | some x =>
      match x.toNat? with
      | none => .error .fractional
      | some n =>
          if Binary64.pow2 63 ≤ n then .error .tooLarge else atLeastOne (Numeral.signed d.negative n)

/-- A line number. -/
def line : Json.Value → Except Problem Nat
  | .number (.integer n) => atLeastOne n
  | .number (.decimal d) => lineOfDecimal d
  | .number _ => .error .notFinite
  | .bool b => atLeastOne (if b then 1 else 0)
  | .text t => lineOfText t
  | .null | .array _ | .object _ => .error .notNumber

end Record

end DocAudit
