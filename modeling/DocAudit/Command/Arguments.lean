import DocAudit.Command.Option
import DocAudit.Settings

/-! # Reading the command line

    Words are taken from left to right.  The first plain word that is no option's
    value is the input; options may stand before and after it, and the LAST value
    given to an option counts.  Help and version are answered as soon as they are
    met, before anything that comes later can be wrong.  Two dashes joined to an option
    leave its value blank.

    A group of short options joined into one word is understood as a whole
    before any of them takes effect. -/

namespace DocAudit.Command

open Text

/-- Why reading stops before there is a request. -/
inductive Stop where
  | help
  | version
  | misuse (misuse : Misuse)
  deriving Repr, DecidableEq

/-- What has been read so far. -/
structure Draft where
  input : Option Text := none
  output : Option (Given Text) := none
  title : Option Text := none
  workers : Option (Given Int) := none
  verbose : Bool := false
  strict : Bool := false
  sources : List (Given Text) := []
  extras : List Text := []
  deriving Repr, DecidableEq

namespace Draft

/-- A word that nothing takes. -/
def extra (draft : Draft) (t : Text) : Draft := { draft with extras := draft.extras ++ [t] }

/-- The value that a text gives to an option: two dashes give none. -/
def given (t : Text) : Given Text := if t = dashes then .blank else .value t

/-- The number of workers that a text gives. -/
def givenWorkers (t : Text) : Except Misuse (Given Int) :=
  if t = dashes then .ok .blank
  else
    match Numeral.readInt? t with
    | some n => .ok (.value n)
    | none => .error (.notInteger t)

/-- The effect of one option with its value, which is empty for an option without one.  A
    title that is left blank takes back one that was given before. -/
def apply (draft : Draft) (switch : Switch) (value : Text) : Except Stop Draft :=
  match switch with
  | .help => .error .help
  | .version => .error .version
  | .output => .ok { draft with output := some (given value) }
  | .title => .ok { draft with title := if value = dashes then none else some value }
  | .sourceRoot => .ok { draft with sources := draft.sources ++ [given value] }
  | .workers =>
      match givenWorkers value with
      | .ok workers => .ok { draft with workers := some workers }
      | .error misuse => .error (.misuse misuse)
  | .strict => .ok { draft with strict := true }
  | .verbose => .ok { draft with verbose := true }

/-- The effects of options one after another. -/
def applyAll (draft : Draft) : List (Switch × Text) → Except Stop Draft
  | [] => .ok draft
  | (switch, value) :: rest =>
      match draft.apply switch value with
      | .ok draft => draft.applyAll rest
      | .error stop => .error stop

/-- The request of a command line that has been read to its end. -/
def finish (draft : Draft) : Except Stop Request :=
  match draft.input, draft.output with
  | some input, some output =>
      if draft.extras = [] then
        .ok {
          input := input
          output := output
          title := draft.title
          workers := draft.workers
          verbose := draft.verbose
          strict := draft.strict
          sources := draft.sources }
      else .error (.misuse (.unrecognised draft.extras))
  | none, some _ => .error (.misuse (.missing ["input"]))
  | some _, none => .error (.misuse (.missing [Switch.label .output]))
  | none, none => .error (.misuse (.missing ["input", Switch.label .output]))

end Draft

/-- An option of a group with the value that the group gives it, if it gives one. -/
abbrev Use := Switch × Option Text

/-- The options of a group: `switch` with `attached` joined to it. -/
def group (switch : Switch) : Text → Except Misuse (List Use)
  | [] =>
      if switch.takesValue then .ok [(switch, some [])] else .error (.valueIgnored switch [])
  | c :: rest =>
      if switch.takesValue then .ok [(switch, some (c :: rest))]
      else
        match Switch.ofSpelling? ['-', c] with
        | none => .error (.valueIgnored switch (c :: rest))
        | some next =>
            match rest with
            | [] => .ok [(switch, none), (next, none)]
            | d :: more => (group next (d :: more)).map ((switch, none) :: ·)

/-- The options that one word stands for. -/
def uses (switch : Switch) (long : Bool) : Option Text → Except Misuse (List Use)
  | none => .ok [(switch, none)]
  | some attached =>
      if long && !switch.takesValue then .error (.valueIgnored switch attached)
      else group switch attached

/-- The option of a group that takes the next word as its value: the last, if it needs a
    value and has none. -/
def needy? (group : List Use) : Option Switch :=
  match group.getLast? with
  | some (switch, none) => if switch.takesValue then some switch else none
  | _ => none

/-- Every option with its value; `value` is for the one that has none and needs one. -/
def settle (value : Text) (group : List Use) : List (Switch × Text) :=
  group.map fun (switch, given) => (switch, given.getD (if switch.takesValue then value else []))

/-- Read words. -/
def readWords (draft : Draft) : List Word → Except Stop Draft
  | [] => .ok draft
  | .plain t :: rest =>
      if draft.input.isSome then readWords (draft.extra t) rest
      else
        match rest with
        | .separator :: rest => readWords { draft with input := some t } rest
        | rest => readWords { draft with input := some t } rest
  | .separator :: rest =>
      match draft.input, rest with
      | none, .plain t :: rest => readWords { draft with input := some t } rest
      | _, rest => readWords (draft.extra dashes) rest
  | .unknown t :: rest => readWords (draft.extra t) rest
  | .option switch long attached :: rest =>
      match uses switch long attached with
      | .error misuse => .error (.misuse misuse)
      | .ok group =>
          match needy? group, rest with
          | none, rest =>
              match draft.applyAll (settle [] group) with
              | .error stop => .error stop
              | .ok draft => readWords draft rest
          | some _, .plain value :: rest =>
              match draft.applyAll (settle value group) with
              | .error stop => .error stop
              | .ok draft => readWords draft rest
          | some switch, _ => .error (.misuse (.valueExpected switch))

/-- Read a command line. -/
def readArguments (arguments : List Text) : Except Stop Request :=
  match Word.ofTexts arguments with
  | .error misuse => .error (.misuse misuse)
  | .ok words =>
      match readWords {} words with
      | .error stop => .error stop
      | .ok draft => draft.finish

end DocAudit.Command
