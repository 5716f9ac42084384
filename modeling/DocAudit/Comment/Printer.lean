import DocAudit.Comment.Body

/-! # Writing doc-comments

    The layout that people give a doc-comment by hand: one star per line, the
    summary first, the description after an empty line, then the tags. -/

namespace DocAudit.Comment

open Text

/-- The lines of a text that breaks lines with line feeds only. -/
def fieldLines (t : Text) : List Text := splitOn '\n' t

/-- The lines of a tag: its name with the first line of its value, then the others. -/
def tagLines (tag : Tag) : List Text :=
  match fieldLines tag.value with
  | [] => [tag.name]
  | first :: rest => (if tag.value = [] then tag.name else tag.name ++ [' '] ++ first) :: rest

/-- The lines of a comment without decoration. -/
def contentLines (doc : Comment) : List Text :=
  doc.summary.toList
    ++ (if doc.description = [] then [] else [] :: fieldLines doc.description)
    ++ doc.tags.flatMap tagLines

/-- Put the decoration in front of a line. -/
def decorate (line : Text) : Text := if line = [] then " *" else " * " ++ line

/-- Write a doc-comment, marks included. -/
def print (doc : Comment) : Text :=
  joinLines (opening :: (doc.contentLines.map decorate ++ [' ' :: closing]))

end DocAudit.Comment
