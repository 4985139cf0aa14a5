import RoutePlan.Command.Help
import RoutePlan.Log.Settings

/-! # Sessions

A session is one run of the program as a whole: it sets up the log from the environment,
reads the command line and runs the command. It writes a text, gives notices in the order
they arise, and ends with an exit code.
-/

namespace RoutePlan

/-- The variables of the environment that are looked at. -/
structure Environment where
  constraint : Option String := none
  level : Option String := none
  format : Option String := none
  extra : Option String := none
deriving DecidableEq, Repr

inductive Notice where
  /-- An extra log directive that is none. -/
  | directive (text : String)
  | event (e : Event)
  | usage (fault : UsageFault)
  | level (text : String)
  | failure (fault : CommandFault)
deriving Repr

def Notice.event? : Notice → Option Event
  | .event e => some e
  | _ => none

/-- What is given besides the events. A failure is followed by its causes. -/
def CommandFault.causes (f : CommandFault) : List String :=
  f.contexts.drop 1 ++ match f with
    | .unread _ fault => [fault.message]
    | .unloaded _ .yaml => ["invalid YAML"]
    | .unloaded _ (.content .malformed) => ["malformed JSON"]
    | .unloaded _ (.content .ended) => ["unexpected end of input"]
    | .unloaded _ (.content (.mismatch m)) => [m.message]
    | .uncompiled _ fault => [fault.message]

/-- Several causes are numbered from the outermost on. -/
def causeLines : List String → List String
  | [] => []
  | [cause] => ["", "Caused by:", "    " ++ cause]
  | causes =>
    ["", "Caused by:"] ++ causes.mapIdx fun i cause => "    " ++ toString i ++ ": " ++ cause

/-- An event as a line of JSON. -/
def Event.json (e : Event) : Json.Value :=
  .object [
    ("level", .text e.level.name),
    ("fields", .object (("message", .text e.message) :: e.fields.map fun (name, field) =>
      (name, match field with
        | .text s => .text s
        | .count n => .number (.natural n)))),
    ("target", .text e.source)]

/-- The text of a notice, without the line feed at its end. -/
def Notice.message : Notice → String
  | .directive text => "Warning: Invalid log filter directive: " ++ text
  | .event e => e.json.toLine
  | .usage fault => fault.message
  | .level text => "Error: Invalid log level '" ++ text ++ "'"
  | .failure fault =>
    "\n".intercalate (("Error: " ++ fault.contexts.headD "") :: causeLines fault.causes)

structure Session where
  code : Nat
  output : String := ""
  notices : List Notice := []

namespace Session

/-- Asking for help is no fault, so its text is output. -/
def ofUsage (notices : List Notice) (fault : UsageFault) : Session :=
  match fault with
  | .help topic long => ⟨0, topic.text long, notices⟩
  | fault => ⟨2, "", notices ++ [.usage fault]⟩

def ofReport (filter : Log.Filter) (notices : List Notice) (r : Report) : Session :=
  let notices := notices ++ (r.events.filter filter.passes).map .event
  match r.outcome with
  | .ok _ => ⟨0, r.output, notices⟩
  | .error f => ⟨1, r.output, notices ++ [.failure f]⟩

def run (env : Environment) (args : List String) (read : String → Except FileFault String) :
    Session :=
  let log := Log.Settings.configure env.level env.format env.extra
  match log.filter? with
  | none => ⟨1, "", [.level log.level]⟩
  | some (filter, faulty) =>
    let notices := faulty.map .directive
    match Arguments.read args with
    | .error fault => ofUsage notices fault
    | .ok command => ofReport filter notices (command.run env.constraint (read command.file))

end Session
end RoutePlan
