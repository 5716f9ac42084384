import DocAudit.Comment.Body
import DocAudit.Text.WordChar

/-! # Reading doc-comments

    The lines of a comment fall into two parts at the FIRST TAG LINE, a line
    whose first visible character is an at sign.  The prose before it holds the
    summary, which is the first line that has one, and the description, which is
    all that follows it.  From the first tag line on, every tag line opens a tag
    that owns the lines up to the next one.

    A comment is read as a whole or not at all: `parse` gives the structured form
    or the first fault. -/

namespace DocAudit.Comment

open Text

/-- A tag name begins with an ASCII letter, an underscore or a backslash. -/
def isNameStart (c : Char) : Bool := c.isAlpha || c == '_' || c == '\\'

/-- A tag name goes on with word characters, backslashes, colons and dashes. -/
def isNameChar (c : Char) : Bool := isWordChar c || c == '\\' || c == ':' || c == '-'

/-- The line's first visible character is an at sign. -/
def isTagLine (line : Text) : Bool := (trimLeft line).head? == some '@'

/-- The tag name that a tag line begins with and the rest of the line, trimmed; `none`
    if no name follows the at sign. -/
def tagLine? (line : Text) : Option (Text × Text) :=
  match trim line with
  | '@' :: c :: rest =>
      if isNameStart c then
        some ('@' :: c :: rest.takeWhile isNameChar, trim (rest.dropWhile isNameChar))
      else none
  | _ => none

/-- The first tag line, counted from `number`, without a tag name. -/
def badTag? (number : Nat) : List Text → Option Fault
  | [] => none
  | line :: rest =>
      if isTagLine line && (tagLine? line).isNone then
        some (.badTag ((trim line).takeWhile fun c => !isBlank c) number)
      else badTag? (number + 1) rest

/-- The lines up to the next tag line. -/
def untilTag (lines : List Text) : List Text := lines.takeWhile fun line => !isTagLine line

/-- One tag for every tag line, with the lines up to the next one in its value. -/
def tagsOf : List Text → List Tag
  | [] => []
  | line :: rest =>
      match tagLine? line with
      | none => tagsOf rest
      | some (name, first) =>
          ⟨name, trim (joinLines (first :: (untilTag rest).map trim))⟩ :: tagsOf rest

/-- What a line gives as a summary: the line without outer blanks and stars. -/
def headline (line : Text) : Text :=
  trimBy (fun c => c == ' ' || c == '\t' || c == '*') (trim line)

/-- The summary of the prose and the lines that follow it. -/
def splitSummary : List Text → Option Text × List Text
  | [] => (none, [])
  | line :: rest => if headline line = [] then splitSummary rest else (some (headline line), rest)

/-- The number of leading blanks. -/
def indentation (line : Text) : Nat := (line.takeWhile isBlank).length

/-- The least indentation of the lines that are not blank, zero if there is none. -/
def margin (lines : List Text) : Nat :=
  (((lines.filter fun line => !(trim line).isEmpty).map indentation).min?).getD 0

/-- The lines without their common margin, as one text without outer blanks. -/
def withoutMargin (lines : List Text) : Text :=
  let width := margin lines
  trim (joinLines (lines.map (·.drop width)))

/-- The structured form of undecorated lines whose tag lines all have a name. -/
def ofLines (body : List Text) : Comment :=
  let (summary, rest) := splitSummary (untilTag body)
  { summary := summary, description := withoutMargin rest, tags := tagsOf body }

/-- Read a doc-comment, marks included. -/
def parse (raw : Text) : Except Fault Comment :=
  match body raw with
  | .error fault => .error fault
  | .ok body =>
      match badTag? 1 body with
      | some fault => .error fault
      | none => .ok (ofLines body)

end DocAudit.Comment
