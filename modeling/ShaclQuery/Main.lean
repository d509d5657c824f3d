import ShaclQuery.Command.Standard
import ShaclQuery.Term.Moment

/-! # The command

The command on the real file system: it reads the environment, the arguments and the shapes file, and
does what `ShaclQuery.Command` concludes. It does not load `.env` files.
-/

open ShaclQuery
open scoped ShaclQuery.Standard

def readEntry (path : String) : IO (Except FileProblem Entry) := do
  try
    let bytes ← IO.FS.readBinFile path
    match String.fromUTF8? bytes with
    | some text => return .ok (.file (.text text))
    | none => return .ok (.file (.octets bytes.toList))
  catch
    | .noFileOrDirectory .. => return .error .notFound
    | .permissionDenied .. => return .error .denied
    | .invalidArgument .. => return .error .nameTooLong
    | _ => return .ok .directory

def readEnvironment : IO Config.Environment :=
  Config.settingNames.filterMapM fun name => do
    let full := "SHAPE_TO_QUERY_" ++ name
    return (← IO.getEnv full).map fun value => (full, value)

/-- Does the last step of a run. An error that escapes is thrown. -/
def performConclusion (c : Command.Conclusion) : IO UInt32 := do
  match c.step with
  | .nothing => pure ()
  | .print text => IO.print text
  | .report text => IO.eprint text
  | .save path text =>
    IO.FS.createDirAll path.parent.text
    IO.FS.writeFile path.text text
  match c.ending with
  | .exit code => return code.toUInt32
  | .escaped e => throw (IO.userError e.message)

def main (arguments : List String) : IO UInt32 := do
  match Command.start (← readEnvironment) arguments with
  | .error c => performConclusion c
  | .ok config =>
    let workingDirectory := PathName.ofText (← IO.currentDir).toString
    let found ← readEntry (Command.shapesFile config).text
    let (notices, c) := Command.finish .standard workingDirectory config found
    for notice in notices do
      IO.eprintln notice.line
    performConclusion c
