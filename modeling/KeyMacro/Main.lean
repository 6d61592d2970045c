import KeyMacro.Command.Run

/-!
# The program

The program works on the files of the system it runs on, and prints what its run
leaves behind.
-/

namespace KeyMacro

/-- The failure with a number and a wording of the system, whose sign of the
    number does not matter. -/
def FileError.ofNumber (code : UInt32) (wording : String) : FileError :=
  match (min code (0 - code)).toNat with
  | 2 => noSuchFile
  | 20 => notDirectory
  | 21 => isDirectory
  | 36 => nameTooLong
  | number => other number wording

/-- The failure that the system reports. -/
def FileError.ofSystem : IO.Error → FileError
  | .noFileOrDirectory _ code details => ofNumber code details
  | .noSuchThing _ code details => ofNumber code details
  | .inappropriateType _ code details => ofNumber code details
  | .permissionDenied _ code details => ofNumber code details
  | .invalidArgument _ code details => ofNumber code details
  | .illegalOperation code details => ofNumber code details
  | .resourceExhausted _ code details => ofNumber code details
  | .resourceBusy code details => ofNumber code details
  | .hardwareFault code details => ofNumber code details
  | .otherError code details => ofNumber code details
  | e => other 5 e.toString

/-- The files of the system. -/
def systemFiles : Files IO where
  read path := do
    if path.text.contains '\x00' then return .error .nulInName
    try return .ok (← IO.FS.readBinFile (String.ofList path.text)).toList
    catch e => return .error (FileError.ofSystem e)
  write path bytes := do
    if path.text.contains '\x00' then return .error .nulInName
    try
      IO.FS.writeBinFile (String.ofList path.text) ⟨bytes.toArray⟩
      return .ok ()
    catch e => return .error (FileError.ofSystem e)

end KeyMacro

/-- Runs the program with the arguments that it is called with. -/
def main (args : List String) : IO UInt32 := do
  let run ← KeyMacro.Command.run KeyMacro.systemFiles {} (args.map String.toList)
  (← IO.getStdout).putStr run.out
  (← IO.getStderr).putStr run.err
  match run.ending with
  | .status code => return UInt32.ofNat code
  | .nameless path =>
    (← IO.getStderr).putStr s!"{KeyMacro.Command.namelessMessage path}\n"
    return 1
  | .undecodable error =>
    (← IO.getStderr).putStr s!"{error.message}\n"
    return 1
