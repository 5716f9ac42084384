import DocAudit.Json.Value
import DocAudit.Text.Numeral

/-! # Reading JSON

    The grammar is the strict one: no comments, no trailing commas, no leading
    zeros, no raw control characters and no halves of surrogate pairs in strings.
    Beyond it, the words for infinity and for an undefined number are numbers.

    Two limits are part of the format: values nest at most `depthLimit` deep, so that the
    deepest array or object has to be EMPTY, and the integer part of a number has no more
    digits than any other numeral.

    A reader takes a text and gives a value and the rest of the text.  Nesting is
    counted down, so the reader of values is a recursion on the REMAINING DEPTH; a list
    of items is read with the length of the whole text as fuel, which no list can use
    up because every item takes at least one character. -/

namespace DocAudit.Json

open Text

/-- How deep values nest; a value that holds no other is one deep. -/
def depthLimit : Nat := 201

/-- The four characters of white space. -/
def isSpace (c : Char) : Bool := c == ' ' || c == '\t' || c == '\n' || c == '\r'

/-- Drop white space. -/
def skipSpace (t : Text) : Text := t.dropWhile isSpace

/-! ## Strings -/

/-- The value of a hexadecimal digit. -/
def hexValue? (c : Char) : Option Nat :=
  if '0' ≤ c ∧ c ≤ '9' then some (c.toNat - 48)
  else if 'a' ≤ c ∧ c ≤ 'f' then some (c.toNat - 87)
  else if 'A' ≤ c ∧ c ≤ 'F' then some (c.toNat - 55)
  else none

/-- The code unit that four hexadecimal digits stand for. -/
def codeUnit? (a b c d : Char) : Option Nat :=
  match hexValue? a, hexValue? b, hexValue? c, hexValue? d with
  | some a, some b, some c, some d => some (((a * 16 + b) * 16 + c) * 16 + d)
  | _, _, _, _ => none

/-- The first half of a surrogate pair. -/
def isHighHalf (unit : Nat) : Bool := 0xD800 ≤ unit && unit ≤ 0xDBFF

/-- The second half of a surrogate pair. -/
def isLowHalf (unit : Nat) : Bool := 0xDC00 ≤ unit && unit ≤ 0xDFFF

/-- The character that a surrogate pair stands for. -/
def pairChar (high low : Nat) : Char :=
  Char.ofNat (0x10000 + (high - 0xD800) * 0x400 + (low - 0xDC00))

/-- The character that a backslash and one character stand for. -/
def escapedChar? (c : Char) : Option Char :=
  if c = '"' ∨ c = '\\' ∨ c = '/' then some c
  else if c = 'b' then some (Char.ofNat 8)
  else if c = 'f' then some (Char.ofNat 12)
  else if c = 'n' then some '\n'
  else if c = 'r' then some '\r'
  else if c = 't' then some '\t'
  else none

/-- Put a character in front of what was read. -/
def prepend (c : Char) (read : Option (Text × Text)) : Option (Text × Text) :=
  read.map fun (t, rest) => (c :: t, rest)

/-- Read a string after its opening quotation mark. -/
def stringTail : Text → Option (Text × Text)
  | [] => none
  | '"' :: rest => some ([], rest)
  | '\\' :: 'u' :: a :: b :: c :: d :: rest =>
      match codeUnit? a b c d with
      | none => none
      | some unit =>
          if isHighHalf unit then
            match rest with
            | '\\' :: 'u' :: a :: b :: c :: d :: rest =>
                match codeUnit? a b c d with
                | none => none
                | some low =>
                    if isLowHalf low then prepend (pairChar unit low) (stringTail rest) else none
            | _ => none
          else if isLowHalf unit then none
          else prepend (Char.ofNat unit) (stringTail rest)
  | '\\' :: c :: rest =>
      match escapedChar? c with
      | none => none
      | some e => prepend e (stringTail rest)
  | c :: rest => if c.toNat < 0x20 ∨ c = '\\' then none else prepend c (stringTail rest)

/-! ## Numbers -/

/-- The digits at the beginning of a text. -/
def leadingDigits (t : Text) : Text := t.takeWhile Char.isDigit

/-- What follows the digits at the beginning of a text. -/
def afterDigits (t : Text) : Text := t.dropWhile Char.isDigit

/-- The number that digits stand for. -/
def digitsValue (t : Text) : Nat := Numeral.value (t.map fun c => c.toNat - 48)

/-- The digits after a decimal point, if there is one, which has to have some. -/
def fraction? : Text → Option (Option Text × Text)
  | '.' :: t => if leadingDigits t = [] then none else some (some (leadingDigits t), afterDigits t)
  | t => some (none, t)

/-- The digits of an exponent with its sign. -/
def exponentDigits? (negative : Bool) (t : Text) : Option (Option Int × Text) :=
  if leadingDigits t = [] then none
  else some (some (Numeral.signed negative (digitsValue (leadingDigits t))), afterDigits t)

/-- The exponent, if there is one, which has to have digits. -/
def exponent? : Text → Option (Option Int × Text)
  | c :: t =>
      if c = 'e' ∨ c = 'E' then
        exponentDigits? (Numeral.splitSign t).1 (Numeral.splitSign t).2
      else some (none, c :: t)
  | [] => some (none, [])

/-- The number with the given parts: an integer if it has neither fraction nor exponent. -/
def numberOf (negative : Bool) (whole : Text) : Option Text → Option Int → Number
  | none, none => .integer (Numeral.signed negative (digitsValue whole))
  | fraction, exponent =>
      let places := fraction.getD []
      .decimal
        ⟨negative, digitsValue (whole ++ places), exponent.getD 0 - (places.length : Int)⟩

/-- The integer part is there, has no leading zero and is not too long. -/
def isWhole (digits : Text) : Bool :=
  !digits.isEmpty && (digits.length == 1 || digits.head? != some '0')
    && digits.length ≤ Numeral.digitLimit

/-- Read a finite number after its sign. -/
def finite? (negative : Bool) (t : Text) : Option (Number × Text) :=
  if isWhole (leadingDigits t) then
    match fraction? (afterDigits t) with
    | none => none
    | some (fraction, rest) =>
        match exponent? rest with
        | none => none
        | some (exponent, rest) =>
            some (numberOf negative (leadingDigits t) fraction exponent, rest)
  else none

/-- The rest of a text that begins with the given word. -/
def word? (word t : Text) : Option Text :=
  if word.isPrefixOf t then some (t.drop word.length) else none

/-- Read a number after its sign. -/
def magnitude? (negative : Bool) (t : Text) : Option (Number × Text) :=
  match word? "Infinity" t with
  | some rest => some (.infinite, rest)
  | none => finite? negative t

/-- Read a number. -/
def number? (t : Text) : Option (Number × Text) :=
  match t with
  | '-' :: rest => magnitude? true rest
  | _ =>
      match word? "NaN" t with
      | some rest => some (.notANumber, rest)
      | none => magnitude? false t

/-! ## Values -/

/-- Read a value that is neither array nor object. -/
def scalar? (t : Text) : Option (Value × Text) :=
  match t with
  | '"' :: rest => (stringTail rest).map fun (s, rest) => (.text s, rest)
  | _ =>
      match word? "null" t, word? "true" t, word? "false" t with
      | some rest, _, _ => some (.null, rest)
      | _, some rest, _ => some (.bool true, rest)
      | _, _, some rest => some (.bool false, rest)
      | _, _, _ => (number? t).map fun (n, rest) => (.number n, rest)

/-- Read one or more things with commas between them, up to a closing bracket. -/
def separated? {α : Type} (item? : Text → Option (α × Text)) (close : Char) :
    Nat → Text → Option (List α × Text)
  | 0, _ => none
  | fuel + 1, t =>
      match item? t with
      | none => none
      | some (x, rest) =>
          match skipSpace rest with
          | [] => none
          | c :: rest =>
              if c = ',' then
                (separated? item? close fuel rest).map fun (xs, rest) => (x :: xs, rest)
              else if c = close then some ([x], rest)
              else none

/-- Read what follows an opening bracket, up to the one that closes it. -/
def bracketed? {α : Type} (item? : Text → Option (α × Text)) (close : Char) (fuel : Nat)
    (t : Text) : Option (List α × Text) :=
  if (skipSpace t).head? = some close then some ([], (skipSpace t).tail)
  else separated? item? close fuel t

/-- Read a member: a name, a colon and a value. -/
def readMember? (item? : Text → Option (Value × Text)) (t : Text) :
    Option ((Text × Value) × Text) :=
  match skipSpace t with
  | '"' :: rest =>
      match stringTail rest with
      | none => none
      | some (name, rest) =>
          match skipSpace rest with
          | ':' :: rest => (item? rest).map fun (v, rest) => ((name, v), rest)
          | _ => none
  | _ => none

/-- Read a value that nests at most `depth` deep and whose arrays and objects have at most
    `fuel` items each. -/
def value? (fuel : Nat) : Nat → Text → Option (Value × Text)
  | 0, _ => none
  | depth + 1, t =>
      match skipSpace t with
      | '[' :: rest =>
          (bracketed? (value? fuel depth) ']' fuel rest).map fun (vs, rest) => (.array vs, rest)
      | '{' :: rest =>
          (bracketed? (readMember? (value? fuel depth)) '}' fuel rest).map
            fun (ms, rest) => (.object ms, rest)
      | t => scalar? t

/-- Read a text that holds one value and nothing else. -/
def read? (t : Text) : Option Value :=
  match value? t.length depthLimit t with
  | some (v, rest) => if skipSpace rest = [] then some v else none
  | none => none

end DocAudit.Json
