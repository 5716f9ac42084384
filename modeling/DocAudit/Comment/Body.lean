import DocAudit.Comment.Basic
import DocAudit.Text.Blank
import DocAudit.Text.Lines

/-! # The body of a doc-comment

    Between its marks a comment is a list of lines, each usually decorated with
    indentation and one star.  This file takes marks and decoration off and
    refuses a comment that is not one piece: a mark is missing, a closing mark stands
    inside, or an inline tag is left open at the end. -/

namespace DocAudit.Comment

open Text

/-- The opening mark. -/
def opening : Text := ['/', '*', '*']

/-- The closing mark. -/
def closing : Text := ['*', '/']

/-- Take off one decoration: indentation, ONE star and at most one space.  A line without
    a star keeps its indentation.  Trailing blanks go in any case. -/
def undecorate (line : Text) : Text :=
  match trimLeft (trimRight line) with
  | '*' :: ' ' :: rest => rest
  | '*' :: rest => rest
  | _ => trimRight line

/-- The text between the marks, as written. -/
def interior (raw : Text) : Except Fault Text :=
  let text := trim raw
  if !opening.isPrefixOf text then .error .notOpened
  else if text.length < opening.length + closing.length || !closing.isSuffixOf text then
    .error .notClosed
  else .ok ((text.drop opening.length).take (text.length - opening.length - closing.length))

/-- The number of the first line, counted from `number`, with a closing mark in it. -/
def closedEarly? (number : Nat) : List Text → Option Nat
  | [] => none
  | line :: rest => if occurs closing line then some number else closedEarly? (number + 1) rest

/-- The line, counted from `number`, of the first inline tag that no closing brace follows
    anywhere in the rest of the text. -/
def inlineOpen? (number : Nat) : Text → Option Nat
  | [] => none
  | c :: rest =>
      if c = '{' then
        if rest.head? = some '@' ∧ '}' ∉ rest then some number else inlineOpen? number rest
      else inlineOpen? (if c = '\n' then number + 1 else number) rest

/-- The undecorated lines of a comment that is one piece. -/
def body (raw : Text) : Except Fault (List Text) :=
  match interior raw with
  | .error fault => .error fault
  | .ok text =>
      let body := (lines text).map undecorate
      match closedEarly? 1 body with
      | some line => .error (.closedEarly line)
      | none =>
          match inlineOpen? 1 (joinLines body) with
          | some line => .error (.inlineOpen line)
          | none => .ok body

end DocAudit.Comment
