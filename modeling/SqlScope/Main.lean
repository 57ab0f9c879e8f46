import SqlScope.Cli.Run

/-!
# The `sieve` program

Runs `SqlScope.Cli.run` on this machine: files are read from the file system,
standard input is read to its end only when a command asks for it, and the
environment is the process's own. What the run wrote goes to standard output
and standard error, and its exit code is the process's.
-/

namespace SqlScope.Program

open SqlScope SqlScope.Cli

/-- Reads a stream to its end. -/
partial def readAll (s : IO.FS.Stream) (acc : String) : IO String := do
  let line ← s.getLine
  if line.isEmpty then pure acc else readAll s (acc ++ line)

/-- A system error as the system describes it, with its number. -/
def osText (code : UInt32) (details : String) : String :=
  details ++ " (os error " ++ toString code ++ ")"

/-- Why a file could not be read, from the error the runtime reports. -/
def fileError : IO.Error → FileError
  | .noFileOrDirectory .. => .notFound
  | .inappropriateType _ 21 _ => .isDirectory
  | .inappropriateType _ 20 _ => .notDirectory
  | .permissionDenied _ code details => .other (osText code details)
  | .otherError code details => .other (osText code details)
  | e => .other (toString e)

/-- Reads a file as UTF-8 text. -/
def readPath (path : String) : IO (Except FileError String) := do
  try
    let bytes ← IO.FS.readBinFile path
    match String.fromUTF8? bytes with
    | some s => pure (.ok s)
    | none => pure (.error (.other "stream did not contain valid UTF-8"))
  catch e => pure (.error (fileError e))

/-- This machine as a host. -/
def host : Host IO where
  readFile := readPath
  readInput := do readAll (← IO.getStdin) ""
  lookupEnv name := IO.getEnv name

end SqlScope.Program

def main (args : List String) : IO UInt32 := do
  let out ← SqlScope.Cli.run SqlScope.Program.host args
  let stdout ← IO.getStdout
  stdout.putStr out.stdout
  stdout.flush
  let stderr ← IO.getStderr
  stderr.putStr out.stderr
  stderr.flush
  pure out.exit.toUInt32
