import CellMachine.Session

set_option relaxedAutoImplicit false
set_option autoImplicit false

/-!
# The program

The outermost layer: reads the environment and the file that the arguments name, and prints what
the session says.
-/

namespace CellMachine.Program

/-- The variables that a session looks at. -/
def variableNames : List String :=
  ["LUNA_TRACE", "LUNA_MEMORY", "LUNA_MAX_STEPS", "CLICOLOR_FORCE"]

/-- The environment of the process. -/
def environment : IO Environment := do
  let values ← variableNames.mapM fun name => do return (name, ← IO.getEnv name)
  return fun name => (values.lookup name).join

/-- The text of the file behind a path. -/
def readFile (path : String) : IO (Except Unreadable String) := do
  try
    return decodeFile (← IO.FS.readBinFile path)
  catch
    | .noFileOrDirectory .. => return .error .notFound
    | .inappropriateType .. => return .error .folder
    | e => return .error (.other (toString e))

/-- The path that a request reads. -/
def pathOf? : Request → Option String
  | .runDefault path | .run path _ | .check path => some path
  | _ => none

/-- The text of a diagnostic on the console. -/
def showDiagnostic (d : Diagnostic) : String :=
  let code := (d.code.map (· ++ "\n\n")).getD ""
  let help := (d.help.map fun help => "  help: " ++ help ++ "\n").getD ""
  "Error: " ++ code ++ "  x " ++ d.message ++ "\n" ++ help

end CellMachine.Program

open CellMachine CellMachine.Program in
/-- Run a session with the arguments of the process. -/
def main (arguments : List String) : IO UInt32 := do
  let env ← environment
  match CommandLine.parse arguments with
  | .error e =>
    let page := HelpTopic.program.page.text (Console.ofEnvironment env)
    IO.eprint ("error: " ++ e.message ++ "\n\n" ++ String.ofList page)
    return 2
  | .ok request =>
    let file ← (pathOf? request).mapM readFile
    let t := Session.answer env (fun _ => file.getD (.error .notFound)) request
    IO.print (String.ofList t.output)
    IO.eprint (String.ofList t.trace)
    if let some d := t.report then IO.eprint (showDiagnostic d)
    return UInt32.ofNat t.exit
