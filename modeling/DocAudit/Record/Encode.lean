import DocAudit.Record.Basic

/-! # Writing records

    The text of a list of records, as a source parser hands it over: a JSON array
    without blanks, every member under its first name, and strings with as few
    escapes as the format allows.  A value that is absent is written as null or
    left out. -/

namespace DocAudit.Record

open Text

/-- One character inside a string. -/
def escape (c : Char) : Text :=
  if c = '"' ∨ c = '\\' then ['\\', c]
  else if c.toNat < 0x20 then "\\u" ++ Numeral.hex 4 c.toNat
  else [c]

/-- A string. -/
def stringText (t : Text) : Text := ['"'] ++ t.flatMap escape ++ ['"']

/-- A member of an object. -/
def memberText (name value : Text) : Text := stringText name ++ [':'] ++ value

/-- An object. -/
def objectText (members : List Text) : Text := ['{'] ++ join [','] members ++ ['}']

/-- An array. -/
def arrayText (items : List Text) : Text := ['['] ++ join [','] items ++ [']']

/-- A member that may be absent. -/
def optionalMember (omitAbsent : Bool) (name : Text) : Option Text → List Text
  | some t => [memberText name (stringText t)]
  | none => if omitAbsent then [] else [memberText name "null"]

/-- An element. -/
def elementText (omitAbsent : Bool) (record : RecordedElement) : Text :=
  objectText
    ([memberText "kind" (stringText record.kind.name), memberText "name" (stringText record.name)]
      ++ optionalMember omitAbsent "namespace" record.scope
      ++ [memberText "startLine" (Numeral.ofNat record.startLine),
        memberText "endLine" (Numeral.ofNat record.endLine)]
      ++ optionalMember omitAbsent "rawComment" record.raw)

/-- A file. -/
def fileText (omitAbsent : Bool) (record : RecordedFile) : Text :=
  objectText
    [memberText "file" (stringText record.file),
      memberText "elements" (arrayText (record.elements.map (elementText omitAbsent)))]

/-- A list of files. -/
def encode (omitAbsent : Bool) (records : List RecordedFile) : Text :=
  arrayText (records.map (fileText omitAbsent))

end DocAudit.Record
