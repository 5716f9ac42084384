import DocAudit.Report.Document

/-! # Reading a report back

    The outline of a report, read line by line.  Headings count only OUTSIDE fences; a
    fence opens with three or more grave accents before the word for the language and
    closes with a line of exactly these accents.

    The table of findings is read row by row: cells end at bars that no backslash
    stands directly before. -/

namespace DocAudit.Report

open Text

/-- What the outline of a report shows. -/
inductive Mark where
  | title (t : Text)
  | chapter (t : Text)
  | element (kind : Kind) (name : Text)
  | comment (t : Text)
  deriving Repr, DecidableEq

/-- The grave accents of a line that opens a fence. -/
def openedFence? (line : Text) : Option Text :=
  let accents := line.takeWhile (· == backtick)
  if 3 ≤ accents.length ∧ line.dropWhile (· == backtick) = "php".toList then some accents
  else none

/-- The rest of a line after a given beginning. -/
def after? (start line : Text) : Option Text :=
  if start.isPrefixOf line then some (line.drop start.length) else none

/-- A name that is set as code. -/
def codeName? (t : Text) : Option Text :=
  match t with
  | c :: rest => if c = backtick ∧ rest.getLast? = some backtick then some rest.dropLast else none
  | [] => none

/-- The kind and the name in the heading of an element. -/
def elementMark? (t : Text) : Option Mark :=
  Kind.all.findSome? fun kind =>
    (after? (kind.display ++ " ") t).bind fun rest => (codeName? rest).map (.element kind)

/-- The heading on a line outside fences. -/
def heading? (line : Text) : Option Mark :=
  match after? "# " line, after? "## " line with
  | some t, _ => some (.title t)
  | none, some t => some (.chapter t)
  | none, none => ((after? "### " line).or (after? "#### " line)).bind elementMark?

/-- The outline of lines; `fence` holds the open fence and the lines in it, the last first. -/
def marks (fence : Option (Text × List Text)) : List Text → List Mark
  | [] => []
  | line :: rest =>
      match fence with
      | some (accents, body) =>
          if line = accents then .comment (joinLines body.reverse) :: marks none rest
          else marks (some (accents, line :: body)) rest
      | none =>
          match openedFence? line with
          | some accents => marks (some (accents, [])) rest
          | none => (heading? line).toList ++ marks none rest

/-- The outline of a report. -/
def outline (document : Text) : List Mark := marks none (splitOn '\n' document)

/-- Split a row at its bars; `escaped` says that a backslash has just been passed. -/
def splitBars (escaped : Bool) : Text → List Text
  | [] => [[]]
  | c :: rest =>
      if c = '|' ∧ escaped = false then [] :: splitBars false rest
      else consHead c (splitBars (c == '\\') rest)

/-- The cells of a row: what stands between its bars, without the blanks around it. -/
def cells (row : Text) : List Text :=
  ((splitBars false row).drop 1).dropLast.map (trimBy (· == ' '))

/-- A text from a table with its bars as they were. -/
def unescapeBars : Text → Text
  | '\\' :: '|' :: rest => '|' :: unescapeBars rest
  | c :: rest => c :: unescapeBars rest
  | [] => []

end DocAudit.Report
