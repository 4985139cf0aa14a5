import RoutePlan.Command

/-! # Arguments

A command line names a command and sets its options. An option's value may be attached or
stand in the next argument. A value is only looked at when the option after it begins or the
line ends, so a fault in the arguments between is reported first.
-/

namespace RoutePlan

/-- What help is about. -/
inductive Topic where
  | all
  | draw
  | check
  | help
deriving DecidableEq, Repr

inductive UsageFault where
  /-- Help was asked for, the long form of it or the short one. -/
  | help (topic : Topic) (long : Bool)
  | noCommand
  | unknownCommand
  | unknownArgument
  | invalidValue
  | repeatedOption
  | unwantedValue
  | noFile
deriving DecidableEq, Repr

namespace Arguments

/-- An argument by its form. -/
inductive Form where
  | escape
  | long (name : String) (value : Option String)
  /-- One letter after a single dash, with what is attached to it. -/
  | short (letter : Char) (attached : List Char)
  | word
deriving DecidableEq, Repr

/-- A value is attached to a long option by an equals sign. -/
def Form.of (arg : String) : Form :=
  match arg.toList with
  | ['-', '-'] => .escape
  | '-' :: '-' :: rest =>
    let name := String.ofList (rest.takeWhile (· != '='))
    match rest.dropWhile (· != '=') with
    | _ :: value => .long name (some (String.ofList value))
    | [] => .long name none
  | '-' :: letter :: attached => .short letter attached
  | _ => .word

inductive Flag where
  | file
  | format
deriving DecidableEq, Repr

/-- The options read so far. The last one may still wait for its value, or for the value to
be looked at. -/
structure Options where
  file : Option String := none
  rendering : Option Rendering := none
  pending : Option (Flag × Option String) := none

def rendering? (s : String) : Option Rendering :=
  if s = "table" then some .table else if s = "json" then some .json else none

/-- Set an option, once. -/
def Options.set (o : Options) (flag : Flag) (value : String) : Except UsageFault Options :=
  match flag with
  | .file =>
    if o.file.isSome then .error .repeatedOption
    else if value.isEmpty then .error .invalidValue
    else .ok { o with file := some value }
  | .format =>
    if o.rendering.isSome then .error .repeatedOption
    else
      match rendering? value with
      | some r => .ok { o with rendering := some r }
      | none => .error .invalidValue

def Options.settle (o : Options) : Except UsageFault Options :=
  match o.pending with
  | none => .ok o
  | some (_, none) => .error .invalidValue
  | some (flag, some value) => { o with pending := none }.set flag value

/-- Begin an option, whose value is attached or still to come. -/
def Options.start (o : Options) (flag : Flag) (attached : Option String) :
    Except UsageFault Options := do
  let o ← o.settle
  match attached with
  | some value => o.set flag value
  | none => return { o with pending := some (flag, none) }

/-- A word is the value that the last option waits for; nothing else takes words. -/
def Options.word (o : Options) (arg : String) : Except UsageFault Options :=
  match o.pending with
  | some (flag, none) => .ok { o with pending := some (flag, some arg) }
  | _ => .error .unknownArgument

/-- Help is given once the option before it is found in order. -/
def Options.help (o : Options) (topic : Topic) (long : Bool) : Except UsageFault Options := do
  let _ ← o.settle
  throw (.help topic long)

/-- A value attached to a letter may have an equals sign before it. -/
def attachedValue : List Char → Option String
  | [] => none
  | '=' :: value => some (String.ofList value)
  | value => some (String.ofList value)

def longFlag? (topic : Topic) (name : String) : Option Flag :=
  if name = "file" then some .file
  else if name = "format" ∧ topic = .draw then some .format
  else none

/-- One argument of a command other than an escape. -/
def Options.take (topic : Topic) (o : Options) (arg : String) : Except UsageFault Options :=
  match Form.of arg with
  | .long name value =>
    match longFlag? topic name with
    | some flag => o.start flag value
    | none =>
      if name ≠ "help" then .error .unknownArgument
      else if value.isSome then .error .unwantedValue
      else o.help topic true
  | .short letter attached =>
    if letter = 'f' then o.start .file (attachedValue attached)
    else if letter = 'h' then o.help topic false
    else .error .unknownArgument
  | .escape | .word => o.word arg

/-- The options of a command. No argument may follow an escape. -/
def readOptions (topic : Topic) : Options → List String → Except UsageFault Options
  | o, [] => o.settle
  | o, arg :: rest =>
    if Form.of arg = .escape then
      if rest.isEmpty then o.settle else .error .unknownArgument
    else do readOptions topic (← o.take topic arg) rest

def readCommand (topic : Topic) (command : String → Options → Command) (args : List String) :
    Except UsageFault Command := do
  let o ← readOptions topic {} args
  match o.file with
  | some file => return command file o
  | none => throw .noFile

def topic? (word : String) : Option Topic :=
  if word = "draw" then some .draw
  else if word = "check" then some .check
  else if word = "help" then some .help
  else none

/-- Help is asked for one command at most. -/
def readHelp : List String → UsageFault
  | [] => .help .all true
  | [word] =>
    match topic? word with
    | some topic => .help topic true
    | none => .unknownCommand
  | _ => .unknownCommand

/-- What is wrong with a first argument that names no command. -/
def readOther (arg : String) (rest : List String) : UsageFault :=
  match Form.of arg with
  | .escape =>
    match rest with
    | [] => .noCommand
    | word :: _ => if (topic? word).isSome then .unknownArgument else .unknownCommand
  | .long name value =>
    if name ≠ "help" then .unknownArgument
    else if value.isSome then .unwantedValue
    else .help .all true
  | .short letter _ => if letter = 'h' then .help .all false else .unknownArgument
  | .word => .unknownCommand

def read : List String → Except UsageFault Command
  | [] => .error .noCommand
  | arg :: rest =>
    match topic? arg with
    | some .draw => readCommand .draw (fun file o => .draw file (o.rendering.getD .table)) rest
    | some .check => readCommand .check (fun file _ => .check file) rest
    | some _ => .error (readHelp rest)
    | none => .error (readOther arg rest)

end Arguments
end RoutePlan
