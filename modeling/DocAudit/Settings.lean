import DocAudit.FileTree.Basic
import DocAudit.Text.Case

/-! # Settings

    What a run works with: arguments over environment over defaults.  The title
    comes from the first of these that is not empty; the number of workers from the
    first that is given; and strictness from either, so the environment can only
    switch it ON.

    Without a title the report is named after the first source path: a directory
    lends its name, a file its name without the extension.

    An option may be there and still be left BLANK.  A blank title is none; a blank number
    of workers or path is a fault, but only where its value is needed. -/

namespace DocAudit

open Text

/-- The value of something that is asked for, which may have been left blank. -/
inductive Given (α : Type) where
  | blank
  | value (a : α)
  deriving Repr, DecidableEq

/-- What the user asks for, on the command line or otherwise. -/
structure Request where
  input : Text
  output : Given Text
  title : Option Text := none
  workers : Option (Given Int) := none
  verbose : Bool := false
  strict : Bool := false
  sources : List (Given Text) := []
  deriving Repr, DecidableEq

/-- The variables of the environment. -/
abbrev Environment := List (Text × Text)

/-- The value of a variable. -/
def Environment.get? (environment : Environment) (name : Text) : Option Text :=
  environment.lookup name

/-- The settings of one run. -/
structure Settings where
  /-- The file with the records, a dash for the standard input. -/
  input : Text
  /-- The file for the report. -/
  output : Given Text
  title : Text
  /-- How many workers share the files, `none` for the usual number. -/
  workers : Option Int
  verbose : Bool
  /-- The run fails if something that must hold does not. -/
  strict : Bool
  deriving Repr, DecidableEq

namespace Settings

/-- The variable with the title. -/
def titleVariable : Text := "PHPDOC_EXPORTER_TITLE"

/-- The variable with the number of workers. -/
def workersVariable : Text := "PHPDOC_EXPORTER_WORKERS"

/-- The variable that asks for strictness. -/
def strictVariable : Text := "PHPDOC_EXPORTER_STRICT"

/-- Why a request gives no settings. -/
inductive Fault where
  /-- Fewer than one worker is asked for. -/
  | requestedWorkers (n : Int)
  /-- The environment's number of workers is no integer. -/
  | workersNotInteger (value : Text)
  /-- The environment asks for fewer than one worker. -/
  | variableWorkers (n : Int)
  /-- The first source path is too long to be looked at. -/
  | sourceTooLong (path : Path)
  /-- The number of workers is blank. -/
  | blankWorkers
  /-- The first source path is blank. -/
  | blankSource
  deriving Repr, DecidableEq

/-- What is said of a path that is blank. -/
def blankPath : Text := "expected str, bytes or os.PathLike object, not list"

/-- The fault in words. -/
def Fault.message : Fault → Text
  | .requestedWorkers n => "workers must be at least 1, got " ++ Numeral.ofInt n
  | .workersNotInteger value => workersVariable ++ " must be an integer, got " ++ quoted value
  | .variableWorkers n => workersVariable ++ " must be at least 1, got " ++ Numeral.ofInt n
  | .sourceTooLong path => PathFault.message .tooLong path
  | .blankWorkers => "'<' not supported between instances of 'list' and 'int'"
  | .blankSource => blankPath

/-- The user is told of the fault as a wrong use of the program. -/
def Fault.isMisuse : Fault → Bool
  | .requestedWorkers _ | .workersNotInteger _ | .variableWorkers _ => true
  | .sourceTooLong _ | .blankWorkers | .blankSource => false

/-- The title of a report on a name. -/
def titleOf (name : Text) : Text := name ++ " Documentation"

/-- The title that the source paths suggest. -/
def defaultTitle (tree : FileTree) : List (Given Text) → Except Fault Text
  | [] => .ok (titleOf "PHP")
  | .blank :: _ => .error .blankSource
  | .value first :: _ =>
      let path := Path.ofText first
      match tree.directory? path with
      | .error _ => .error (.sourceTooLong path)
      | .ok (some place) => .ok (titleOf (capitalise (place.getLast?.getD [])))
      | .ok none => .ok (titleOf (eraseAll ".php" path.name))

/-- The first text that is there and not empty, or else the title that the sources suggest. -/
def chooseTitle (tree : FileTree) (environment : Environment) (request : Request) :
    Except Fault Text :=
  match request.title.getD [], (environment.get? titleVariable).getD [] with
  | [], [] => defaultTitle tree request.sources
  | [], title => .ok title
  | title, _ => .ok title

/-- The environment's number of workers. -/
def variableWorkers? (environment : Environment) : Except Fault (Option Int) :=
  match trim ((environment.get? workersVariable).getD []) with
  | [] => .ok none
  | value =>
      match Numeral.readInt? value with
      | none => .error (.workersNotInteger value)
      | some n => if n < 1 then .error (.variableWorkers n) else .ok (some n)

/-- The words that switch strictness on. -/
def affirmations : List Text := ["1", "true", "yes", "on"]

/-- The environment asks for strictness. -/
def variableStrict (environment : Environment) : Bool :=
  affirmations.contains (lower (trim ((environment.get? strictVariable).getD [])))

/-- The number of workers that is asked for, which is at least one. -/
def requestedWorkers? : Option (Given Int) → Except Fault (Option Int)
  | none => .ok none
  | some .blank => .error .blankWorkers
  | some (.value n) => if n < 1 then .error (.requestedWorkers n) else .ok (some n)

/-- The number of workers asked for, or else the environment's. -/
def chooseWorkers (environment : Environment) : Option Int → Except Fault (Option Int)
  | some n => .ok (some n)
  | none => variableWorkers? environment

/-- The settings for a request.  The workers asked for are checked first, then the title
    is chosen, and last the environment's workers are looked at. -/
def ofRequest (tree : FileTree) (environment : Environment) (request : Request) :
    Except Fault Settings := do
  let requested ← requestedWorkers? request.workers
  let title ← chooseTitle tree environment request
  let workers ← chooseWorkers environment requested
  return {
    input := request.input
    output := request.output
    title := title
    workers := workers
    verbose := request.verbose
    strict := request.strict || variableStrict environment }

end Settings

end DocAudit
