import DocAudit.Comment.Basic

/-! # Elements of source code

    An element is one piece of code that can be documented.  It keeps the text of
    its doc-comment as written, and beside it the structured form if the text
    could be read; the structured form NEVER stands alone. -/

namespace DocAudit

/-- The kinds of elements. -/
inductive Kind where
  | file
  | cls
  | interface
  | trait
  | method
  | function
  | property
  deriving Repr, DecidableEq, Inhabited

namespace Kind

/-- All kinds, in the order in which they are listed to the user. -/
def all : List Kind := [.file, .cls, .interface, .trait, .method, .function, .property]

theorem mem_all (kind : Kind) : kind ∈ all := by cases kind <;> decide

/-- The kind as it is written in records and messages. -/
def name : Kind → Text
  | .file => "file"
  | .cls => "class"
  | .interface => "interface"
  | .trait => "trait"
  | .method => "method"
  | .function => "function"
  | .property => "property"

/-- The kind as it is written at the beginning of a heading or a message. -/
def display : Kind → Text
  | .file => "File"
  | .cls => "Class"
  | .interface => "Interface"
  | .trait => "Trait"
  | .method => "Method"
  | .function => "Function"
  | .property => "Property"

/-- The kind with a given name. -/
def ofName? (t : Text) : Option Kind := all.find? fun kind => kind.name == t

@[simp] theorem ofName?_name (kind : Kind) : ofName? kind.name = some kind := by
  cases kind <;> decide

theorem ofName?_eq_some {t : Text} {kind : Kind} : ofName? t = some kind ↔ t = kind.name := by
  refine ⟨fun h => ?_, fun h => h ▸ ofName?_name kind⟩
  have named := List.find?_some h
  exact (beq_iff_eq.1 named).symm

end Kind

/-- Where an element stands: a file and an inclusive range of lines. -/
structure Place where
  file : Text
  startLine : Int
  endLine : Int
  deriving Repr, DecidableEq, Inhabited

namespace Place

/-- The reference by which findings name a place: file and first line. -/
def address (place : Place) : Text := place.file ++ ":" ++ Text.Numeral.ofInt place.startLine

end Place

/-- One documentable piece of code. -/
structure Element where
  kind : Kind
  name : Text
  place : Place
  /-- The namespace that the element is declared in. -/
  scope : Option Text := none
  /-- The doc-comment as written. -/
  raw : Option Text := none
  /-- The doc-comment's structured form, absent if there is no comment or it is malformed. -/
  doc : Option Comment := none
  /-- A structured form comes from a written comment. -/
  written : doc.isSome → raw.isSome := by simp
  deriving Repr, DecidableEq

namespace Element

/-- An element with a structured comment that was never written cannot be built. -/
inductive Fault where
  | unwritten (name : Text)
  deriving Repr, DecidableEq

/-- The fault in words. -/
def Fault.message : Fault → Text
  | .unwritten name => name ++ ": parsed doc without raw comment text"

/-- Build an element from its parts. -/
def build (kind : Kind) (name : Text) (place : Place) (scope raw : Option Text)
    (doc : Option Comment) : Except Fault Element :=
  if h : doc.isSome → raw.isSome then .ok ⟨kind, name, place, scope, raw, doc, h⟩
  else .error (.unwritten name)

end Element

/-- A source file with its elements in the order of their declarations. -/
structure SourceFile where
  path : Text
  elements : List Element := []
  deriving Repr, DecidableEq

/-- The number of elements in a list of files. -/
def SourceFile.elementCount : List SourceFile → Nat
  | [] => 0
  | file :: rest => file.elements.length + elementCount rest

end DocAudit
