import DocAudit.Command.Run

/-! # The command line

    The outer layer: it takes a SNAPSHOT of the few files that a run can look at, calls
    `Command.run`, prints what the run says, and writes the report if there is
    one.  Nothing is decided here. -/

namespace DocAudit.Main

open Text

/-- A text as it is handed to the system. -/
def shown (t : Text) : String := String.ofList t

/-- The path that is given, if it is not blank. -/
def pathOf? : Given Text → Option Path
  | .blank => none
  | .value t => some (Path.ofText t)

/-- The paths that a run can look at: input, output and the first source. -/
def concerns (arguments : List Text) : List Path :=
  match Command.readArguments arguments with
  | .error _ => []
  | .ok request =>
      Path.ofText request.input :: (request.output :: request.sources.take 1).filterMap pathOf?

/-- What stands at a path of the system. -/
def probe (path : Text) : IO (Option Node) := do
  try
    let real ← IO.FS.realPath (shown path)
    if ← real.isDir then return some (.dir [])
    else if ← real.pathExists then return some (.file (← IO.FS.readBinFile real).toList)
    else return none
  catch _ => return none

/-- Add to a tree what stands on the way along a path of which some parts have been
    passed; `place` is where they lead, named from the root. -/
def survey (anchor : Text) (passed place : List Text) : List Text → Node → IO Node
  | [], root => return root
  | part :: rest, root => do
      let passed := passed ++ [part]
      let place := if part = Path.parent then place.dropLast else place ++ [part]
      match ← probe (Path.text ⟨anchor, passed⟩) with
      | none => return root
      | some node =>
          survey anchor passed place rest
            (if (root.get? place).isSome then root else Node.set node place root)

/-- The files that a run can look at. -/
def snapshot (arguments : List Text) : IO FileTree := do
  let cwd := (Path.ofText (← IO.currentDir).toString.toList).parts
  let mut root := Node.makeDirs [] cwd (.dir [])
  for path in concerns arguments do
    let base := if path.isAbsolute then [] else cwd
    root ← survey path.anchor [] base path.parts root
  return { root := root, cwd := cwd }

/-- The variables that a run looks at. -/
def environment : IO Environment := do
  let mut found := []
  for name in [Settings.titleVariable, Settings.workersVariable, Settings.strictVariable] do
    if let some value ← IO.getEnv (shown name) then
      found := (name, value.toList) :: found
  return found

/-- The rest of a stream. -/
partial def readAll (stream : IO.FS.Stream) (read : String) : IO String := do
  let line ← stream.getLine
  if line.isEmpty then return read else readAll stream (read ++ line)

/-- The standard input, if a run reads it. -/
def standardInput (arguments : List Text) : IO Text := do
  match Command.readArguments arguments with
  | .ok request =>
      if request.input = ['-'] then return (← readAll (← IO.getStdin) "").toList else return []
  | .error _ => return []

/-- Write the report that a run left in its tree. -/
def deliver (arguments : List Text) (outcome : Command.Outcome) : IO Unit := do
  match Command.readArguments arguments, outcome.ending with
  | .ok request, .exit .success =>
      if let some path := pathOf? request.output then
        match outcome.tree.read path with
        | .ok bytes => IO.FS.writeBinFile (shown path.text) ⟨bytes.toArray⟩
        | .error _ => return ()
  | _, _ => return ()

/-- The number that the system is told. -/
def exitNumber : Command.Ending → UInt32
  | .exit code => code.number.toUInt32
  | .crash _ => 1

/-- The words for a run that ended in a crash. -/
def lastWords : Command.Ending → String
  | .exit _ => ""
  | .crash crash => shown crash.message ++ "\n"

end DocAudit.Main

open DocAudit in
/-- Run the program on its command line. -/
def main (words : List String) : IO UInt32 := do
  let arguments := words.map String.toList
  let session : Command.Session :=
    { tree := ← Main.snapshot arguments
      environment := ← Main.environment
      stdin := ← Main.standardInput arguments }
  let outcome := Command.run session arguments
  Main.deliver arguments outcome
  IO.print (Main.shown outcome.stdout)
  let time := toString (← IO.monoMsNow)
  for notice in outcome.notices do
    IO.eprint (Main.shown (notice.text time.toList))
  IO.eprint (Main.lastWords outcome.ending)
  return Main.exitNumber outcome.ending
