import DocAudit.Text.Basic

/-! # Lines

    A text is cut into lines at every line break; CR LF counts as ONE break, and
    a break at the very end opens no further line. -/

namespace DocAudit.Text

/-- Line feed, vertical tab, form feed, carriage return, the three larger ASCII
    separators, NEL, and the Unicode line and paragraph separators. -/
def isLineBreak (c : Char) : Bool :=
  let n := c.toNat
  (10 ≤ n && n ≤ 13) || (28 ≤ n && n ≤ 30) || n == 0x85 || n == 0x2028 || n == 0x2029

/-- The lines of a text, without their breaks. -/
def lines : Text → List Text
  | [] => []
  | '\r' :: '\n' :: rest => [] :: lines rest
  | c :: rest => if isLineBreak c then [] :: lines rest else consHead c (lines rest)

end DocAudit.Text
