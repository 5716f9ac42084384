import DocAudit.Text.Blank
import DocAudit.Text.Digit

/-! # Numerals

    Numbers are written in decimal without padding.  An integer is read from an
    optional sign and decimal digits of any script; SINGLE underscores may stand
    between digits and white space around the whole.  A numeral of more than
    `digitLimit` digits is refused rather than read. -/

namespace DocAudit.Text

/-- White space proper: the blank characters but for the four ASCII separators. -/
def isWhite (c : Char) : Bool := isBlank c && !(28 ≤ c.toNat && c.toNat ≤ 31)

namespace Numeral

/-- No numeral longer than this is read. -/
def digitLimit : Nat := 4300

/-- The decimal numeral of a natural number. -/
def ofNat (n : Nat) : Text := Nat.toDigits 10 n

/-- The decimal numeral of an integer. -/
def ofInt : Int → Text
  | .ofNat n => ofNat n
  | .negSucc n => '-' :: ofNat (n + 1)

/-- The hexadecimal numeral of `n`, filled up with zeros to `width` places. -/
def hex (width n : Nat) : Text := (Nat.toDigits 16 n).leftpad width '0'

/-- The number that a list of decimal places stands for, the greatest first. -/
def value (places : List Nat) : Nat := places.foldl (fun n d => 10 * n + d) 0

/-- The places of a run of digits with single underscores BETWEEN digits; `place?`
    says what a digit is. -/
def places? (place? : Char → Option Nat) : Text → Option (List Nat)
  | [] => none
  | [c] => (place? c).map ([·])
  | c :: '_' :: rest =>
      match place? c, places? place? rest with
      | some d, some ds => some (d :: ds)
      | _, _ => none
  | c :: rest =>
      match place? c, places? place? rest with
      | some d, some ds => some (d :: ds)
      | _, _ => none

/-- Take a sign off the front of a text; `true` stands for minus. -/
def splitSign : Text → Bool × Text
  | '-' :: rest => (true, rest)
  | '+' :: rest => (false, rest)
  | rest => (false, rest)

/-- The integer with the given sign and size. -/
def signed (negative : Bool) (n : Nat) : Int := if negative then -(n : Int) else n

/-- Read an integer, or `none` if the text is no numeral or one that is too long. -/
def readInt? (t : Text) : Option Int :=
  let (negative, digits) := splitSign (trimBy isWhite t)
  match places? decimalValue? digits with
  | some ds => if ds.length ≤ digitLimit then some (signed negative (value ds)) else none
  | none => none

end Numeral

end DocAudit.Text
