import SqlScope.Cli.Arguments
import SqlScope.Cli.LogFilter
import SqlScope.Config.Check
import SqlScope.Scope.Engine
import SqlScope.Host
import SqlScope.Json

/-!
# Running `sieve`

`run` reads the command line and carries out its request on a host, giving the
exit code and what was written to standard output and standard error.

- `rewrite` loads the rules file and refuses it if it has a problem, sets up
  logging, takes the SQL from the command line or else from standard input
  (without its line ends), and prints the rewritten SQL, or with `--explain` a
  JSON report of the rewrite.
- `check` sets up logging, prints the findings about the rules file and fails
  when there is an error among them.

A failure of a command is reported as `Error:` with its message and the chain of
its causes, and exit code 1; a refused command line has exit code 2.
-/

namespace SqlScope.Cli

open SqlScope.Sql SqlScope.Scope SqlScope.Config

/-- What a run of the program left behind. -/
structure Outcome where
  exit : Nat
  stdout : String := ""
  stderr : String := ""
  deriving Repr, BEq, Inhabited

/-- A refused command line: help and the version go to standard output with
success, anything else to standard error with exit code 2. -/
def Failure.outcome : Failure → Outcome
  | .help text => ⟨0, text, ""⟩
  | .version => ⟨0, versionText, ""⟩
  | f => ⟨2, "", f.text⟩

/-- A text right-aligned in five columns. -/
def padLeft5 (s : String) : String := String.ofList (List.replicate (5 - s.length) ' ') ++ s

/-- A cause under `Caused by:`, numbered when there are several, its later lines
indented to its first. -/
def causeText (number : Option Nat) (text : String) : String :=
  let (first, rest) := match number with
    | some n => (padLeft5 (toString n) ++ ": ", "       ")
    | none => ("    ", "    ")
  match text.splitOn "\n" with
  | [] => first
  | l :: ls => first ++ l ++ String.join (ls.map fun x => "\n" ++ rest ++ x)

/-- A failed command as the program reports it: the message, then its causes,
the outermost first. -/
def errorReport (message : String) (causes : List String) : String :=
  "Error: " ++ message ++
    (match causes with
     | [] => ""
     | [c] => "\n\nCaused by:\n" ++ causeText none c
     | cs => "\n\nCaused by:" ++ String.join (cs.zipIdx.map fun (c, i) => "\n" ++ causeText (some i) c)) ++
    "\n"

/-- Loads a rules file and refuses it if it has a problem; a failure is the chain
of its causes. -/
def loadRules (source : Except FileError String) : Except (List String) RewriteConfig :=
  match source with
  | .error e => .error ["IO error: " ++ e.text, e.text]
  | .ok text =>
    match RewriteConfig.fromYaml text with
    | .error (.yaml e) => .error ["YAML parse error: " ++ e.text, e.text]
    | .error (.invalid m) => .error ["Configuration error: " ++ m]
    | .ok c =>
      match c.validate with
      | some p => .error ["Configuration error: " ++ p]
      | none => .ok c

/-- Standard input without the line ends at its end. -/
def trimLineEnds (s : String) : String :=
  String.ofList ((s.toList.reverse.dropWhile fun c => c == '\n' || c == '\r').reverse)

/-- The JSON report of a rewrite; a failed rewrite reports the input unchanged,
with the reason. -/
def explanation (d : Dialect) (sql : String) : Except RewriteError Report → Json
  | .ok r => .object [("dialect", .string d.name), ("original_sql", .string r.input),
      ("rewritten_sql", .string r.rewritten), ("changed", .bool r.changed),
      ("rules_applied", .array (r.applied.map .string))]
  | .error e => .object [("dialect", .string d.name), ("original_sql", .string sql),
      ("rewritten_sql", .string sql), ("changed", .bool false), ("rules_applied", .array []),
      ("error", .string e.message)]

/-- The environment variables the program reads. -/
def environmentNames : List String := ["SIEVE_CONFIG", "SIEVE_LOG", "RUST_LOG"]

/-- The event written before the engine is built. -/
def buildingEvent (d : Dialect) (rules : Nat) : Event where
  level := .debug
  target := "sieve::commands::rewrite"
  message := "Building rewrite engine"
  fields := [("dialect", d.name), ("rules", toString rules)]

/-- Runs the program with the arguments after its name; standard error as it
reports it, without the log lines. -/
def runCommand [Monad m] (host : Host m) (args : List String) : m Outcome := do
  let values ← environmentNames.mapM fun n => do
    let v ← host.lookupEnv n
    pure (n, v)
  let env := fun n => (values.find? (·.1 == n)).bind (·.2)
  match parse env args with
  | .error f => pure f.outcome
  | .ok inv =>
    match inv.request with
    | .rewrite path dialect explain sql =>
      let source ← host.readFile path
      match loadRules source with
      | .error causes => pure ⟨1, "", errorReport ("Failed to load rules file " ++ path) causes⟩
      | .ok config =>
        let (filter, warnings) := setupLogging (env "RUST_LOG") (inv.logLevel.getD config.logging.level)
        let text ← match sql with
          | some s => pure s
          | none => do
            let input ← host.readInput
            pure (trimLineEnds input)
        let d := dialect.getD config.dialect
        let building := buildingEvent d config.leafRuleCount
        match config.build with
        | .error e =>
          pure ⟨1, "", warnings ++ logText filter [building] ++ errorReport "Failed to build rules" [e.message]⟩
        | .ok rules =>
          let engine := Engine.new d rules
          let (events, out) := if explain then
              let r := engine.rewriteLogged text
              (r.events, (explanation d text r.result).pretty)
            else
              let r := engine.runLogged text
              (r.events, r.result)
          let log := logText filter (building :: engine.creationEvents ++ events)
          pure ⟨0, out ++ "\n", warnings ++ log⟩
    | .check path =>
      let (_, warnings) := setupLogging (env "RUST_LOG") (inv.logLevel.getD "warn")
      let source ← host.readFile path
      let report : CheckReport := ⟨checkFile source⟩
      let out := "🔍 Checking rules file " ++ path ++ "...\n" ++ report.text path
      if report.hasErrors then
        pure ⟨1, out, warnings ++ errorReport ("Rules check failed with " ++ toString report.errorCount ++
          " error(s)") []⟩
      else pure ⟨0, out, warnings⟩

/-- Runs the program with the arguments after its name. Standard error keeps only
the lines that are not log lines; the first line of each log record, which starts
with the time and the level, is one. -/
def run [Monad m] (host : Host m) (args : List String) : m Outcome := do
  let o ← runCommand host args
  pure { o with stderr := reportedErrorText o.stderr }

end SqlScope.Cli
