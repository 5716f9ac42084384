import DocAudit.Text.Basic

/-! # Blank characters, trimming and words

    The blank characters are the Unicode characters that are white space or
    separate paragraphs, segments and lines, the four ASCII information
    separators included.  Trimming removes them from the ends of a text, and the
    words of a text are its maximal runs without them. -/

namespace DocAudit.Text

/-- White space and separators: TAB to CR, FS to SPACE, NEL, NBSP and the spaces
    of the general punctuation block.  A zero-width space is NOT blank. -/
def isBlank (c : Char) : Bool :=
  let n := c.toNat
  (9 ≤ n && n ≤ 13) || (28 ≤ n && n ≤ 32) || n == 0x85 || n == 0xA0 || n == 0x1680
    || (0x2000 ≤ n && n ≤ 0x200A) || n == 0x2028 || n == 0x2029 || n == 0x202F
    || n == 0x205F || n == 0x3000

/-- Drop leading blanks. -/
def trimLeft (t : Text) : Text := t.dropWhile isBlank

/-- Drop trailing blanks. -/
def trimRight (t : Text) : Text := (t.reverse.dropWhile isBlank).reverse

/-- Drop blanks at both ends. -/
def trim (t : Text) : Text := trimBy isBlank t

theorem trim_eq (t : Text) : trim t = trimRight (trimLeft t) := rfl

/-- The text is empty or goes on with a blank: a word ends here. -/
def atWordEnd : Text → Bool
  | [] => true
  | c :: _ => isBlank c

/-- The maximal runs without blanks, in order. -/
def words : Text → List Text
  | [] => []
  | c :: rest =>
      if isBlank c then words rest
      else if atWordEnd rest then [c] :: words rest
      else consHead c (words rest)

/-- The words of a text with one space between neighbours. -/
def singleSpaced (t : Text) : Text := join [' '] (words t)

end DocAudit.Text
