import Emend.Cli.Run

/-!
# The program

Connects `Cli.run` with the files, the arguments and the streams of this machine.
-/

set_option autoImplicit false

namespace Emend

/-- The failure that a machine gives a number. -/
def ReadFailure.ofNumber? : Nat → Option ReadFailure
  | 2 => some notFound
  | 20 => some notDirectory
  | 21 => some isDirectory
  | 36 => some nameTooLong
  | _ => none

/-- Why a file could not be read, from what the machine says.  Its number may come with a minus. -/
def ReadFailure.ofError (e : IO.Error) : ReadFailure :=
  let number := match e with
    | .noFileOrDirectory _ n _ | .inappropriateType _ n _ | .invalidArgument _ n _ =>
      n.toInt32.toInt.natAbs
    | _ => 0
  (ofNumber? number).getD (other (toString e))

/-- The content of a file of this machine. -/
def machineContent (path : Text) : IO (Except ReadFailure Bytes) := do
  if path.contains '\x00' then return .error .zeroInPath
  try
    return .ok (← IO.FS.readBinFile (String.ofList path)).toList
  catch e => return .error (.ofError e)

/-- Whether a path leads to anything on this machine. -/
def machineLeadsSomewhere (path : Text) : IO Bool := do
  match ← machineContent path with
  | .error .notFound | .error .notDirectory | .error .zeroInPath => return false
  | _ => return true

/-- The files of this machine. -/
def machine : IO (FileSystem IO) := do
  let directory ← IO.currentDir
  let home ← IO.getEnv "HOME"
  return ⟨(toString directory).toList, (home.filter (· ≠ "")).map String.toList, machineContent,
    machineLeadsSomewhere⟩

end Emend

/-- Runs the program. -/
def main (args : List String) : IO UInt32 := do
  let ending ← Emend.Cli.run (← Emend.machine) args
  IO.print ending.output
  for notice in ending.notices do
    IO.eprintln notice
  if let some e := ending.failure then
    IO.eprintln e.report
  return ending.code.toUInt32
