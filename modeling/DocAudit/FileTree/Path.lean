import DocAudit.Text.Quoted

/-! # Paths

    A path is an anchor and a list of parts.  Empty parts and parts of a single
    dot say nothing and are dropped; two dots are KEPT, because what they lead to
    depends on the file tree.  The anchor of an absolute path is one slash, or two if
    exactly two are written. -/

namespace DocAudit

open Text

/-- A path in its normal form. -/
structure Path where
  anchor : Text
  parts : List Text
  deriving Repr, DecidableEq, Inhabited

namespace Path

/-- The part that leads to the directory above. -/
def parent : Text := ['.', '.']

/-- The part that leads nowhere else. -/
def here : Text := ['.']

/-- The anchor of a written path. -/
def anchorOf (t : Text) : Text :=
  match (t.takeWhile (· == '/')).length with
  | 0 => []
  | 2 => ['/', '/']
  | _ => ['/']

/-- Read a path. -/
def ofText (t : Text) : Path :=
  ⟨anchorOf t, (splitOn '/' t).filter fun part => !part.isEmpty && part != here⟩

/-- The path as it is shown; the path that leads nowhere else is a dot. -/
def text (path : Path) : Text :=
  if path.anchor = [] ∧ path.parts = [] then here else path.anchor ++ join ['/'] path.parts

/-- The path starts at the root of the tree. -/
def isAbsolute (path : Path) : Bool := !path.anchor.isEmpty

/-- The last part, empty if there is none. -/
def name (path : Path) : Text := path.parts.getLast?.getD []

/-- The path holds a NUL character, which no file can be named with. -/
def hasNul (path : Path) : Bool := path.parts.any fun part => part.any fun c => c.toNat == 0

end Path

/-- Why a path leads to nothing that can be used. -/
inductive PathFault where
  /-- A part of the path does not exist. -/
  | missing
  /-- Something that is no directory is used as one. -/
  | notDirectory
  /-- A directory stands where a file is needed. -/
  | isDirectory
  /-- The path or a part of it is too long. -/
  | tooLong
  deriving Repr, DecidableEq

namespace PathFault

/-- The number by which the system reports the fault. -/
def number : PathFault → Nat
  | .missing => 2
  | .notDirectory => 20
  | .isDirectory => 21
  | .tooLong => 36

/-- The system's words for the fault. -/
def words : PathFault → Text
  | .missing => "No such file or directory"
  | .notDirectory => "Not a directory"
  | .isDirectory => "Is a directory"
  | .tooLong => "File name too long"

/-- The report of the fault at a path. -/
def message (fault : PathFault) (path : Path) : Text :=
  "[Errno " ++ Numeral.ofNat fault.number ++ "] " ++ fault.words ++ ": " ++ quoted path.text

end PathFault

end DocAudit
