import RoutePlan.Document.Format
import RoutePlan.RouteTable.Rendering
import RoutePlan.Settings.Constraint

/-! # Commands

A command compiles the document in one file and writes the routes or their number. What the
file holds, or why it could not be read, is given to the command, so that running one is a
function: it gives the text it writes, the events it reports and its outcome.
-/

namespace RoutePlan

inductive Command where
  | draw (file : String) (rendering : Rendering)
  | check (file : String)
deriving DecidableEq, Repr

/-- Why a file could not be read. -/
inductive FileFault where
  | missing
  | directory
  /-- The path goes on behind a file. -/
  | notDirectory
  /-- The content is no text in UTF-8. -/
  | notText
  | other (reason : String)
deriving DecidableEq, Repr

def FileFault.message : FileFault → String
  | .missing => "No such file or directory (os error 2)"
  | .directory => "Is a directory (os error 21)"
  | .notDirectory => "Not a directory (os error 20)"
  | .notText => "stream did not contain valid UTF-8"
  | .other reason => reason

inductive CommandFault where
  | unread (file : String) (fault : FileFault)
  | unloaded (file : String) (fault : DocumentFault)
  | uncompiled (file : String) (fault : Fault)
deriving Repr

/-- What was being done when the fault arose, outermost first. -/
def CommandFault.contexts : CommandFault → List String
  | .unread file _ => ["Failed to read route definitions from " ++ file]
  | .unloaded file fault => ["Failed to load " ++ file, fault.context]
  | .uncompiled file _ => ["Failed to compile " ++ file]

/-- What a command leaves behind. -/
structure Report where
  output : String := ""
  events : List Event := []
  outcome : Except CommandFault Unit

namespace Command

def file : Command → String
  | .draw file _ => file
  | .check file => file

/-- The part of a path's last segment behind its last dot. A dot at the beginning starts no
extension. -/
def extension? (path : String) : Option String :=
  let name := (path.toList.reverse.takeWhile (· != '/'))
  let ending := name.takeWhile (· != '.')
  if ending.length + 1 < name.length then some (String.ofList ending.reverse) else none

/-- Documents are JSON unless the extension says YAML. -/
def formatOf (path : String) : DocumentFormat :=
  match extension? path with
  | some "yaml" | some "yml" => .yaml
  | _ => .json

def load (file : String) (content : Except FileFault String) : Except CommandFault Definition := do
  let text ← content.mapError (.unread file)
  (Definition.ofText (formatOf file) text).mapError (.unloaded file)

/-- The table of a file's document, with the events of compiling it. -/
def compile (settings : Settings) (file : String) (content : Except FileFault String) :
    Except CommandFault RouteTable × List Event :=
  match load file content with
  | .error f => (.error f, [])
  | .ok definition =>
    match definition.compile settings with
    | (.error f, events) => (.error (.uncompiled file f), events)
    | (.ok table, events) => (.ok table, events ++ [.tableReady file table.size])

/-- What is written for a finished table. -/
def output (table : RouteTable) : Command → String
  | .draw _ rendering => table.render rendering ++ "\n"
  | .check _ => "ok: " ++ toString table.size ++ " routes\n"

def run (constraint : Option String) (content : Except FileFault String) (c : Command) : Report :=
  let (settings, warnings) := Settings.configure constraint
  match compile settings c.file content with
  | (.error f, events) => { events := warnings ++ events, outcome := .error f }
  | (.ok table, events) =>
    { output := c.output table, events := warnings ++ events, outcome := .ok () }

end Command
end RoutePlan
