import C4Diagram.Command.Run
import C4Diagram.Command.Usage

/-!
The command line: reads the files that an invocation may depend on, works out its effect, and
carries it out. Failures are reported on standard error.
-/

namespace C4Diagram

/-- Some calls give the number of an error with its sign changed. -/
def FileError.ofError : IO.Error → FileError
  | .noFileOrDirectory _ _ _ => .notFound
  | .inappropriateType _ code details =>
    if code = 20 ∨ code = -20 then .notDirectory
    else if code = 21 ∨ code = -21 then .isDirectory
    else .other details.toList
  | .invalidArgument _ code details =>
    if code = 36 ∨ code = -36 then .nameTooLong else .other details.toList
  | e => .other e.toString.toList

def readFile (path : Text) : IO (Except FileError ByteArray) := do
  try
    return .ok (← IO.FS.readBinFile (String.ofList path))
  catch e => return .error (.ofError e)

def writeFile (path t : Text) : IO (Except FileError Unit) := do
  try
    return .ok (← IO.FS.writeBinFile (String.ofList path) t.utf8)
  catch e => return .error (.ofError e)

def isPresent (path : Text) : IO Bool := do
  try
    discard <| IO.FS.realPath (String.ofList path)
    return true
  catch _ => return false

def readFiles (paths : List Text) : IO FileReader := do
  let contents ← paths.mapM fun path => return (path, ← readFile path)
  let present ← paths.filterM isPresent
  return .ofContent (fun path => (contents.lookup path).getD (.error .notFound)) present.contains

def printReports (f : Failure) : IO UInt32 := do
  for report in f.reports do
    IO.eprintln (String.ofList report.message)
    for help in report.help do
      IO.eprintln (String.ofList ("help: ".toList ++ help))
  return 1

def carryOut (i : Invocation) : IO UInt32 := do
  let configurations ← IO.getEnv "XDG_CONFIG_HOME"
  let home ← IO.getEnv "HOME"
  let platform := platformSettingsPath (configurations.map String.toList) (home.map String.toList)
  match i.effect (← readFiles (i.paths platform)) platform with
  | .error f => printReports f
  | .ok (.show t) => IO.print (String.ofList t); return 0
  | .ok (.write path t) =>
    match ← writeFile path t with
    | .error e => printReports (.file e)
    | .ok _ => return 0

/-- A request for help or the version is no failure. -/
def refuse (e : UsageError) : IO UInt32 := do
  if e = .helpAsked ∨ e = .versionAsked then
    IO.println (String.ofList e.message)
    return 0
  IO.eprintln (String.ofList e.message)
  return 2

end C4Diagram

def main (args : List String) : IO UInt32 :=
  match C4Diagram.Invocation.read (args.map String.toList) with
  | .error e => C4Diagram.refuse e
  | .ok i => C4Diagram.carryOut i
