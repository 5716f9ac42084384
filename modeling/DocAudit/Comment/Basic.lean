import DocAudit.Text.Quoted

/-! # Doc-comments

    A doc-comment says in structured form what a block of the shape
    slash-star-star … star-slash says about a piece of code: a one-line SUMMARY, a longer
    DESCRIPTION, and TAGS, each a name that begins with an at sign and a value.

    Tags are looked up by the BEGINNING of their name, so a look-up of `@param`
    also finds `@param-out`. -/

namespace DocAudit

/-- One annotation: a name, the at sign included, and the text that belongs to it. -/
structure Tag where
  name : Text
  value : Text := []
  deriving Repr, DecidableEq, Inhabited

/-- The structured form of a doc-comment. -/
structure Comment where
  summary : Option Text := none
  description : Text := []
  tags : List Tag := []
  deriving Repr, DecidableEq, Inhabited

namespace Tag

/-- The tag's name begins with `name`. -/
def answers (name : Text) (tag : Tag) : Bool := name.isPrefixOf tag.name

end Tag

namespace Comment

/-- The tags that answer to a name, in order of appearance. -/
def tagsUnder (doc : Comment) (name : Text) : List Tag := doc.tags.filter (Tag.answers name)

/-- The first tag that answers to a name. -/
def firstUnder? (doc : Comment) (name : Text) : Option Tag := doc.tags.find? (Tag.answers name)

/-- Some tag answers to a name. -/
def has (doc : Comment) (name : Text) : Bool := doc.tags.any (Tag.answers name)

theorem firstUnder?_eq_head? (doc : Comment) (name : Text) :
    doc.firstUnder? name = (doc.tagsUnder name).head? := by
  simp [firstUnder?, tagsUnder, List.head?_filter]

theorem has_eq_isSome (doc : Comment) (name : Text) :
    doc.has name = (doc.firstUnder? name).isSome := by
  simp [has, firstUnder?, List.isSome_find?]

/-- Why a text is no doc-comment. -/
inductive Fault where
  /-- The text does not begin with the opening mark. -/
  | notOpened
  /-- The text does not end with the closing mark. -/
  | notClosed
  /-- A closing mark stands inside the comment, first on this line. -/
  | closedEarly (line : Nat)
  /-- An inline tag that begins on this line is never closed. -/
  | inlineOpen (line : Nat)
  /-- The line begins with an at sign that no tag name follows. -/
  | badTag (token : Text) (line : Nat)
  deriving Repr, DecidableEq

namespace Fault

/-- The fault in words, without its line. -/
def reason : Fault → Text
  | .notOpened => "doc-comment must start with /**"
  | .notClosed => "doc-comment is not terminated with */"
  | .closedEarly _ => "comment closed before its end"
  | .inlineOpen _ => "unterminated inline tag"
  | .badTag token _ => "invalid tag " ++ Text.quoted token

/-- The line of the comment's body that the fault was found on, counted from one. -/
def line? : Fault → Option Nat
  | .notOpened | .notClosed => none
  | .closedEarly line | .inlineOpen line | .badTag _ line => some line

/-- The fault in words, with its line if it has one. -/
def message (fault : Fault) : Text :=
  match fault.line? with
  | none => fault.reason
  | some line => fault.reason ++ " (comment line " ++ Text.Numeral.ofNat line ++ ")"

end Fault

end Comment

end DocAudit
