import DocAudit.Text.Numeral
import DocAudit.Text.Printable

/-! # Quoted text

    A text inside a message is shown between quotation marks, and what cannot be
    shown is escaped.  The mark is an apostrophe unless the text holds an
    apostrophe and no double quote, so that most texts need no escape for it. -/

namespace DocAudit.Text

/-- The apostrophe. -/
def apostrophe : Char := Char.ofNat 39

/-- The double quotation mark. -/
def doubleQuote : Char := Char.ofNat 34

/-- The mark that a text is quoted with. -/
def quoteMark (t : Text) : Char :=
  if apostrophe ∈ t ∧ doubleQuote ∉ t then doubleQuote else apostrophe

/-- One character between the given marks. -/
def quoteChar (mark c : Char) : Text :=
  if c = mark ∨ c = '\\' then ['\\', c]
  else if c = '\n' then "\\n"
  else if c = '\r' then "\\r"
  else if c = '\t' then "\\t"
  else if isPrintable c then [c]
  else if c.toNat < 0x100 then "\\x" ++ Numeral.hex 2 c.toNat
  else if c.toNat < 0x10000 then "\\u" ++ Numeral.hex 4 c.toNat
  else "\\U" ++ Numeral.hex 8 c.toNat

/-- A text between quotation marks. -/
def quoted (t : Text) : Text :=
  let mark := quoteMark t
  mark :: t.flatMap (quoteChar mark) ++ [mark]

end DocAudit.Text
