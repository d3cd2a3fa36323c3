import Formulary.CommandLine.Run

/-!
# The program

The program does what its arguments ask for, with the files and the streams of the system.
-/

namespace Formulary

open CommandLine

/-- Why the system refused a file. -/
def FileError.ofSystem : IO.Error → FileError
  | .noFileOrDirectory .. => .notFound
  | .inappropriateType _ code _ => if code = 20 || code = -20 then .notDirectory else .isDirectory
  | .invalidArgument _ 36 _ | .invalidArgument _ 0xFFFFFFDC _ => .nameTooLong
  | error => .other (toString error)

/-- What reading the file gives. -/
def readFile (path : String) : IO (Except FileError ByteArray) := do
  try
    let content ← IO.FS.readBinFile path
    return .ok content
  catch error => return .error (.ofSystem error)

/-- What writing the file gives. -/
def writeFile (path text : String) : IO (Except FileError Unit) := do
  try
    IO.FS.writeFile path text
    return .ok ()
  catch error => return .error (.ofSystem error)

/-- Does the action with the files of the system. -/
def performAction : Action → IO Report
  | .finish report => return report
  | .read path next => do performAction (next (← readFile path))
  | .write path text next => do performAction (next (← writeFile path text))

end Formulary

/-- Runs the program and exits with the code of its report. -/
def main (args : List String) : IO UInt32 := do
  let report ← Formulary.performAction (Formulary.CommandLine.run args)
  IO.print report.stdout
  IO.eprint report.stderr
  return UInt32.ofNat report.code
