import DocAudit.Comment.Basic
import DocAudit.Text.Blank
import DocAudit.Text.WordChar

/-! # Entries of the tag breakdown

    The report lists the tags that readers of an interface look for, one line
    each.  A tag's value is first brought onto ONE LINE; what leads it (a type, a
    parameter's name) is then set as code.

    A parameter reads as an optional type, a variable and an optional description.
    A variable is a dollar sign and word characters, after an optional ampersand
    and an optional ellipsis.  A value of any other shape is shown as it is. -/

namespace DocAudit.Report

open Text

/-- The grave accent, which sets off code. -/
def backtick : Char := Char.ofNat 0x60

/-- A text set as code. -/
def code (t : Text) : Text := [backtick] ++ t ++ [backtick]

/-- What is shown for a value without words. -/
def emptyEntry : Text := "*(no details)*"

/-- The value on one line. -/
def plainEntry (value : Text) : Text :=
  if singleSpaced value = [] then emptyEntry else singleSpaced value

/-- The value on one line, its first word set as code. -/
def typedEntry (value : Text) : Text :=
  match singleSpaced value with
  | [] => emptyEntry
  | line => trimRight (code (line.takeWhile (· != ' ')) ++ line.dropWhile (· != ' '))

/-- Take a fixed text off the front, if it is there. -/
def skipOptional (pat t : Text) : Text × Text :=
  if pat.isPrefixOf t then (pat, t.drop pat.length) else ([], t)

/-- A variable that ends at a blank or at the end of the text, and what follows it. -/
def readVariable? (t : Text) : Option (Text × Text) :=
  let (reference, t) := skipOptional "&" t
  let (ellipsis, t) := skipOptional "..." t
  match t with
  | '$' :: t =>
      let name := t.takeWhile isWordChar
      let rest := t.dropWhile isWordChar
      if name = [] ∨ atWordEnd rest = false then none
      else some (reference ++ ellipsis ++ ['$'] ++ name, trimLeft rest)
  | _ => none

/-- The parts of a parameter. -/
structure Param where
  type : Option Text
  name : Text
  description : Text
  deriving Repr, DecidableEq

namespace Param

/-- A type begins with none of the characters that a variable can begin with. -/
def startsType : Text → Bool
  | [] => false
  | c :: _ => !isBlank c && c != '$' && c != '&' && c != '.'

/-- A variable after a type. -/
def readTyped? (line : Text) : Option Param :=
  let rest := line.dropWhile fun c => !isBlank c
  if startsType line && !rest.isEmpty then
    (readVariable? (trimLeft rest)).map fun (name, description) =>
      ⟨some (line.takeWhile fun c => !isBlank c), name, description⟩
  else none

/-- A variable without a type. -/
def readUntyped? (line : Text) : Option Param :=
  (readVariable? line).map fun (name, description) => ⟨none, name, description⟩

/-- Read a parameter from one line. -/
def read? (line : Text) : Option Param := (readTyped? line).or (readUntyped? line)

/-- The type in parentheses. -/
def typeNote : Option Text → Text
  | none => []
  | some type => " (" ++ code type ++ ")"

/-- The description after a colon. -/
def descriptionNote : Text → Text
  | [] => []
  | description => ": " ++ description

/-- The name and the type set as code, then the description. -/
def entry (param : Param) : Text :=
  code param.name ++ typeNote param.type ++ descriptionNote param.description

end Param

/-- The value as a parameter, or on one line if it is none. -/
def paramEntry (value : Text) : Text :=
  match Param.read? (singleSpaced value) with
  | some param => param.entry
  | none => plainEntry value

/-- A group of tags in the breakdown. -/
structure TagGroup where
  title : Text
  tag : Text
  entry : Text → Text

/-- The groups, in the order in which they are shown. -/
def tagGroups : List TagGroup :=
  [⟨"Parameters", "@param", paramEntry⟩,
   ⟨"Returns", "@return", typedEntry⟩,
   ⟨"Throws", "@throws", typedEntry⟩,
   ⟨"See also", "@see", typedEntry⟩,
   ⟨"Deprecated", "@deprecated", plainEntry⟩]

/-- The lines of one group; a group without tags has none. -/
def groupLines (doc : Comment) (group : TagGroup) : List Text :=
  match doc.tagsUnder group.tag with
  | [] => []
  | tags =>
      ("**" ++ group.title ++ ":**")
        :: tags.map (fun tag => "- " ++ group.entry tag.value) ++ [[]]

/-- The lines of the tag breakdown. -/
def breakdown (doc : Comment) : List Text := tagGroups.flatMap (groupLines doc)

end DocAudit.Report
