import RoutePlan.Session

/-! # The command line -/

namespace RoutePlan

/-- A file's content, or why it cannot be read. -/
def readContent (file : String) : IO (Except FileFault String) := do
  try
    match String.fromUTF8? (← IO.FS.readBinFile file) with
    | some text => return .ok text
    | none => return .error .notText
  catch e =>
    match e with
    | .noFileOrDirectory .. => return .error .missing
    | .inappropriateType _ code _ =>
      return .error (if code = 20 then .notDirectory else .directory)
    | e => return .error (.other (toString e))

def readEnvironment : IO Environment := do
  return {
    constraint := ← IO.getEnv Settings.constraintVariable
    level := ← IO.getEnv Log.Settings.levelVariable
    format := ← IO.getEnv Log.Settings.formatVariable
    extra := ← IO.getEnv Log.Settings.extraVariable }

/-- One session: what it writes and its exit code. -/
def start (args : List String) : IO UInt32 := do
  let content ← match Arguments.read args with
    | .ok command => readContent command.file
    | .error _ => pure (.error .missing)
  let session := Session.run (← readEnvironment) args fun _ => content
  for notice in session.notices do
    IO.eprintln notice.message
  IO.print session.output
  return session.code.toUInt32

end RoutePlan

def main (args : List String) : IO UInt32 := RoutePlan.start args
