/-!
# What a command asks of the machine it runs on

A command reads files by path, reads its standard input, and looks up
environment variables; it asks nothing else. `Host m` gathers those three
requests in a monad `m`, so one definition of a command runs on a real machine in
`IO` and on a described one, a `Workspace`, in `Id`.

A workspace is a working directory that holds some named files and no
directory. A path is followed one part at a time, as the system does: `.` stays,
`..` and the root lead to directories whose entries are unknown, so nothing is
found there, and a file cannot be gone through as if it were a directory.
-/

namespace SqlScope

/-- Why a file could not be read. -/
inductive FileError where
  | notFound
  | isDirectory
  | notDirectory
  /-- Any other failure, with the system's text for it. -/
  | other (text : String)
  deriving Repr, BEq, Inhabited

/-- The system's text for the error, with its error number. -/
def FileError.text : FileError → String
  | .notFound => "No such file or directory (os error 2)"
  | .isDirectory => "Is a directory (os error 21)"
  | .notDirectory => "Not a directory (os error 20)"
  | .other text => text

/-- The requests a command makes, in the monad `m`. -/
structure Host (m : Type → Type) where
  /-- The text of the file at a path. -/
  readFile : String → m (Except FileError String)
  /-- All of standard input. -/
  readInput : m String
  /-- The value of an environment variable, if it is set. -/
  lookupEnv : String → m (Option String)

/-- A described machine: the files of the working directory by name, the text on
standard input, and the environment variables that are set. -/
structure Workspace where
  files : List (String × String) := []
  input : String := ""
  env : List (String × String) := []
  deriving Repr, Inhabited

namespace Workspace

/-- Where a walk along a path has got to. -/
inductive Place where
  | workingDirectory
  /-- A directory other than the working one; its entries are unknown. -/
  | elsewhere
  | file (text : String)
  | failed (e : FileError)

/-- One step of a path from a place. -/
def step (w : Workspace) : Place → String → Place
  | .failed e, _ => .failed e
  | .file _, _ => .failed .notDirectory
  | p, "" => p
  | p, "." => p
  | _, ".." => .elsewhere
  | .workingDirectory, name =>
    match w.files.find? (·.1 == name) with
    | some (_, text) => .file text
    | none => .failed .notFound
  | .elsewhere, _ => .failed .notFound

/-- Reads the file at a path. The empty path names nothing. -/
def read (w : Workspace) (path : String) : Except FileError String :=
  if path.isEmpty then .error .notFound
  else
    let start : Place := if path.startsWith "/" then .elsewhere else .workingDirectory
    match (path.splitOn "/").foldl w.step start with
    | .file text => .ok text
    | .failed e => .error e
    | _ => .error .isDirectory

/-- The workspace as a host. -/
def host (w : Workspace) : Host Id where
  readFile p := w.read p
  readInput := w.input
  lookupEnv name := (w.env.find? (·.1 == name)).map (·.2)

end Workspace

end SqlScope
