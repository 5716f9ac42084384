import DocAudit.FileTree.Path
import DocAudit.Text.Utf8

/-! # File trees

    The files that a run of the program can see, as a value: reading gives bytes or
    a fault, and writing gives a new tree.  A path is followed part by part from the
    working directory or from the root, and the FIRST part that cannot be followed
    decides the fault.

    Writing either replaces or creates one file in an existing directory, or
    fails and leaves the tree as it was. -/

namespace DocAudit

open Text

/-- A file with its bytes or a directory with its entries. -/
inductive Node where
  | file (bytes : List UInt8)
  | dir (entries : List (Text × Node))
  deriving Repr, Inhabited

namespace Node

/-- The entry with a name. -/
def entry? (name : Text) (entries : List (Text × Node)) : Option Node :=
  (entries.find? fun entry => entry.1 == name).map (·.2)

/-- Replace the entry with a name, or add it at the end. -/
def setEntry (name : Text) (node : Node) : List (Text × Node) → List (Text × Node)
  | [] => [(name, node)]
  | (key, old) :: rest =>
      if key = name then (name, node) :: rest else (key, old) :: setEntry name node rest

/-- The node at the end of a list of names. -/
def get? : List Text → Node → Option Node
  | [], node => some node
  | name :: rest, .dir entries =>
      match entry? name entries with
      | some node => get? rest node
      | none => none
  | _ :: _, .file _ => none

/-- Put a node at the end of a list of names; the tree is unchanged if the names before the
    last lead to no directory. -/
def set (new : Node) : List Text → Node → Node
  | [], _ => new
  | [name], .dir entries => .dir (setEntry name new entries)
  | name :: rest, .dir entries =>
      match entry? name entries with
      | some node => .dir (setEntry name (set new rest node) entries)
      | none => .dir entries
  | _ :: _, .file bytes => .file bytes

/-- Create the directories on the way to a place and at it, where nothing stands yet.  The
    place is named by the parts `rest` after the parts `before`. -/
def makeDirs (before : List Text) : List Text → Node → Node
  | [], root => root
  | part :: rest, root =>
      let here := before ++ [part]
      makeDirs here rest (if (root.get? here).isSome then root else set (.dir []) here root)

end Node

/-- A tree of files and the working directory, named from the root. -/
structure FileTree where
  root : Node
  cwd : List Text
  deriving Repr, Inhabited

namespace FileTree

/-- The longest name of an entry, in bytes. -/
def nameLimit : Nat := 255

/-- A path of this many bytes is too long. -/
def pathLimit : Nat := 4096

/-- The number of bytes of a text. -/
def byteLength (t : Text) : Nat := (utf8 t).length

/-- One part of a path, followed from a directory named from the root. -/
def follow (tree : FileTree) (place : List Text) (part : Text) : Except PathFault (List Text) :=
  match tree.root.get? place with
  | some (.dir entries) =>
      if part = Path.parent then .ok place.dropLast
      else if nameLimit < byteLength part then .error .tooLong
      else if (Node.entry? part entries).isSome then .ok (place ++ [part])
      else .error .missing
  | _ => .error .notDirectory

/-- Follow parts one after another. -/
def followAll (tree : FileTree) (place : List Text) : List Text → Except PathFault (List Text)
  | [] => .ok place
  | part :: rest =>
      match tree.follow place part with
      | .ok place => tree.followAll place rest
      | .error fault => .error fault

/-- Where a path begins. -/
def base (tree : FileTree) (path : Path) : List Text := if path.isAbsolute then [] else tree.cwd

/-- The path is too long to be followed at all. -/
def isTooLong (path : Path) : Bool := pathLimit ≤ byteLength path.text

/-- The place that a path leads to, named from the root. -/
def locate (tree : FileTree) (path : Path) : Except PathFault (List Text) :=
  if isTooLong path then .error .tooLong else tree.followAll (tree.base path) path.parts

/-- The place that a new or old FILE of this path has: its last part need not exist. -/
def locateFile (tree : FileTree) (path : Path) : Except PathFault (List Text) :=
  if isTooLong path then .error .tooLong
  else
    match path.parts.getLast? with
    | none => .error .isDirectory
    | some last =>
        match tree.followAll (tree.base path) path.parts.dropLast with
        | .error fault => .error fault
        | .ok place =>
            match tree.follow place last with
            | .error .missing => .ok (place ++ [last])
            | .error fault => .error fault
            | .ok place =>
                match tree.root.get? place with
                | some (.file _) => .ok place
                | _ => .error .isDirectory

/-- The bytes of a file. -/
def read (tree : FileTree) (path : Path) : Except PathFault (List UInt8) :=
  match tree.locate path with
  | .error fault => .error fault
  | .ok place =>
      match tree.root.get? place with
      | some (.file bytes) => .ok bytes
      | _ => .error .isDirectory

/-- The tree with new bytes in a file. -/
def write (tree : FileTree) (path : Path) (bytes : List UInt8) : Except PathFault FileTree :=
  (tree.locateFile path).map fun place =>
    { tree with root := Node.set (.file bytes) place tree.root }

/-- The place of the directory that a path leads to, `none` if it leads to no directory.  Only
    a path that is too long is a fault. -/
def directory? (tree : FileTree) (path : Path) : Except PathFault (Option (List Text)) :=
  if path.hasNul then .ok none
  else
    match tree.locate path with
    | .error .tooLong => .error .tooLong
    | .error _ => .ok none
    | .ok place =>
        match tree.root.get? place with
        | some (.dir _) => .ok (some place)
        | _ => .ok none

end FileTree

end DocAudit
