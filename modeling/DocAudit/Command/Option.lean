import DocAudit.Text.Digit
import DocAudit.Text.Quoted

/-! # Options of the command line

    Every option has one or two spellings.  A word of the command line is an option
    if it is spelled out, if it assigns a value to one that is, if it begins the
    long spelling of EXACTLY ONE option, or if it is a short spelling with something
    joined to it.  A word that begins with a dash and is none of these is still a
    plain word if it is a negative number or holds a space. -/

namespace DocAudit.Command

open Text

/-- The options. -/
inductive Switch where
  | help
  | output
  | title
  | sourceRoot
  | workers
  | strict
  | verbose
  | version
  deriving Repr, DecidableEq

/-- The spellings of all options, in the order in which they are listed to the user. -/
def spellings : List (Text × Switch) :=
  [("-h", .help), ("--help", .help),
   ("-o", .output), ("--output", .output),
   ("-t", .title), ("--title", .title),
   ("--source-root", .sourceRoot),
   ("-j", .workers), ("--workers", .workers),
   ("-s", .strict), ("--strict", .strict),
   ("-v", .verbose), ("--verbose", .verbose),
   ("-V", .version), ("--version", .version)]

namespace Switch

/-- The option with a spelling. -/
def ofSpelling? (t : Text) : Option Switch := spellings.lookup t

/-- The option needs a value. -/
def takesValue : Switch → Bool
  | .output | .title | .sourceRoot | .workers => true
  | .help | .strict | .verbose | .version => false

/-- All spellings of an option, as messages name it. -/
def label (switch : Switch) : Text :=
  join ['/'] ((spellings.filter fun entry => entry.2 == switch).map (·.1))

end Switch

/-- Why a command line cannot be understood. -/
inductive Misuse where
  /-- A word begins the long spellings of several options. -/
  | ambiguous (word : Text) (candidates : List Text)
  /-- An option is not followed by its value. -/
  | valueExpected (switch : Switch)
  /-- Something is joined to an option that takes no value. -/
  | valueIgnored (switch : Switch) (value : Text)
  /-- The number of workers is no integer. -/
  | notInteger (value : Text)
  /-- Something that is needed is not there. -/
  | missing (names : List Text)
  /-- Words are left over. -/
  | unrecognised (words : List Text)
  deriving Repr, DecidableEq

/-- The misuse in words. -/
def Misuse.message : Misuse → Text
  | .ambiguous word candidates =>
      "ambiguous option: " ++ word ++ " could match " ++ join ", " candidates
  | .valueExpected switch => "argument " ++ switch.label ++ ": expected one argument"
  | .valueIgnored switch value =>
      "argument " ++ switch.label ++ ": ignored explicit argument " ++ quoted value
  | .notInteger value =>
      "argument " ++ Switch.label .workers ++ ": invalid int value: " ++ quoted value
  | .missing names => "the following arguments are required: " ++ join ", " names
  | .unrecognised words => "unrecognized arguments: " ++ join " " words

/-- A word of the command line. -/
inductive Word where
  /-- A value or the input. -/
  | plain (t : Text)
  /-- The two dashes after which every word is plain. -/
  | separator
  /-- A word that looks like an option and is none. -/
  | unknown (t : Text)
  /-- An option, whether it is a long spelling, and what is attached to it. -/
  | option (switch : Switch) (long : Bool) (attached : Option Text)
  deriving Repr, DecidableEq

/-- The two dashes after which every word is plain. -/
def dashes : Text := ['-', '-']

/-- The text begins with two dashes. -/
def isLong (t : Text) : Bool := dashes.isPrefixOf t

/-- The text before the first equals sign, and the text after it if there is one. -/
def splitAssignment (t : Text) : Text × Option Text :=
  (t.takeWhile (· != '='),
    match t.dropWhile (· != '=') with
    | [] => none
    | _ :: value => some value)

/-- Decimal digits of any script only. -/
def areDecimals (t : Text) : Bool := t.all fun c => (decimalValue? c).isSome

/-- The text without one line feed at its end. -/
def dropFinalFeed (t : Text) : Text :=
  if t.getLast? = some '\n' then t.dropLast else t

/-- A minus sign, digits, and perhaps a point with digits after it; a final line feed is
    overlooked. -/
def isNegativeNumber : Text → Bool
  | '-' :: t =>
      let t := dropFinalFeed t
      let whole := t.takeWhile (· != '.')
      match t.dropWhile (· != '.') with
      | [] => !whole.isEmpty && areDecimals whole
      | _ :: places => areDecimals whole && !places.isEmpty && areDecimals places
  | _ => false

namespace Word

/-- The long spellings that a word of two dashes begins. -/
def abbreviated (t : Text) : List (Text × Switch) :=
  spellings.filter fun entry => (splitAssignment t).1.isPrefixOf entry.1

/-- A word that is spelled like no option as a whole. -/
def ofOther (t : Text) : Word :=
  if isNegativeNumber t || t.contains ' ' then .plain t else .unknown t

/-- A word that begins with two dashes and spells no option. -/
def ofLong (t : Text) : Except Misuse Word :=
  match abbreviated t with
  | [] => .ok (ofOther t)
  | [(_, switch)] => .ok (.option switch true (splitAssignment t).2)
  | many => .error (.ambiguous t (many.map (·.1)))

/-- A word that begins with one dash and spells no option. -/
def ofShort (t : Text) : Word :=
  match Switch.ofSpelling? (t.take 2) with
  | some switch => .option switch false (some (t.drop 2))
  | none => ofOther t

/-- A word that begins with a dash and has more than one character. -/
def ofDashed (t : Text) : Except Misuse Word :=
  match Switch.ofSpelling? t with
  | some switch => .ok (.option switch (isLong t) none)
  | none =>
      match splitAssignment t with
      | (name, some value) =>
          match Switch.ofSpelling? name with
          | some switch => .ok (.option switch (isLong name) (some value))
          | none => if isLong t then ofLong t else .ok (ofShort t)
      | (_, none) => if isLong t then ofLong t else .ok (ofShort t)

/-- What a word is. -/
def ofText (t : Text) : Except Misuse Word :=
  match t with
  | '-' :: _ :: _ => ofDashed t
  | _ => .ok (.plain t)

/-- What the words of a command line are; all words after two dashes are plain. -/
def ofTexts : List Text → Except Misuse (List Word)
  | [] => .ok []
  | t :: rest =>
      if t = dashes then .ok (.separator :: rest.map .plain)
      else
        match ofText t with
        | .error misuse => .error misuse
        | .ok word => (ofTexts rest).map (word :: ·)

end Word

end DocAudit.Command
