/-!
# The command line of `sieve`

The program takes a global `--log-level`, `--help` and `--version`, then one of
the commands `rewrite`, `check` and `help`, each with options of its own. This
module describes them as data and writes their usage lines and help pages.

## Main definitions

- `Flag`, `Positional`, `Command` — an option, a positional argument, a command
- `Command.usage` — the usage line of an error message
- `Command.helpText` — the help page

## Usage lines

A usage line names the command, then `[OPTIONS]` when there are optional
options, the required options and the positional arguments. In an error about
arguments already given, the line instead lists the required options and those
given, each once, then every positional argument: in angle brackets when given,
in square brackets when not. A command's own arguments form a group; when an
error counts the group among the arguments used, the group is shown in place of
its members, as `<--config <CONFIG>|--dialect <DIALECT>|--explain|SQL>`.
-/

namespace SqlScope.Cli

/-- What an option does when it is given. -/
inductive Action where
  /-- Takes one value. -/
  | set
  /-- A switch, on when given. -/
  | setTrue
  | help
  | version
  deriving Repr, BEq, Inhabited

/-- How the value of an option is checked when it is given. -/
inductive ValueCheck where
  | any
  /-- A path, which must not be empty. -/
  | path
  /-- A dialect name. -/
  | dialect
  deriving Repr, BEq, Inhabited

/-- An option. -/
structure Flag where
  long : String
  short : Option Char := none
  /-- The name of the value it takes, such as `CONFIG`. -/
  valueName : Option String := none
  action : Action := .set
  help : String
  /-- The environment variable read when the option is not given. -/
  env : Option String := none
  required : Bool := false
  /-- Help lists options by this rank, then by their letter or name. -/
  rank : Nat := 0
  check : ValueCheck := .any
  deriving Repr, Inhabited

/-- A positional argument. -/
structure Positional where
  valueName : String
  help : String
  /-- Whether it takes any number of values. -/
  many : Bool := false
  deriving Repr, Inhabited

/-- Arguments of a command that usage lines may name together: `id` names the
group among the arguments used, and the members are long names and value names. -/
structure ArgGroup where
  id : String
  members : List String
  deriving Repr, Inhabited

/-- A command: how it is invoked, what it does, its options in the order they are
looked up, its positional arguments, the names and descriptions of the commands
under it, and the group of its own arguments. -/
structure Command where
  path : String
  about : String
  flags : List Flag
  positionals : List Positional := []
  commands : List (String × String) := []
  /-- Whether it takes `--help`. -/
  helpFlag : Bool := true
  group : Option ArgGroup := none
  deriving Repr, Inhabited

namespace Flag

/-- An option as error messages name it: `--config <CONFIG>`, `--explain`. -/
def display (f : Flag) : String :=
  "--" ++ f.long ++ (match f.valueName with | some v => " <" ++ v ++ ">" | none => "")

/-- An option as its help line shows it, with the column of one-letter names. -/
def spec (f : Flag) : String :=
  (match f.short with | some c => "-" ++ c.toString ++ ", " | none => "    ") ++ f.display

/-- The order of options in help: by rank, then by letter (a small letter before
its capital) or, without one, by name. -/
def sortKey (f : Flag) : Nat × String :=
  (f.rank, match f.short with
    | some c => c.toLower.toString ++ (if c.isLower then "0" else "1")
    | none => f.long)

/-- Whether an option is one a user may leave out, so that usage shows `[OPTIONS]`. -/
def isOptional (f : Flag) : Bool :=
  !f.required && (f.action == .set || f.action == .setTrue)

end Flag

/-- A positional argument in a usage line: `<SQL>` when it is given, `[SQL]`
when not, with `...` when it takes many. -/
def Positional.display (p : Positional) (given : Bool) : String :=
  (if given && !p.many then "<" ++ p.valueName ++ ">" else "[" ++ p.valueName ++ "]") ++
    (if p.many then "..." else "")

/-- Texts in order with each repeat after the first left out. -/
def dedup : List String → List String → List String
  | seen, [] => seen.reverse
  | seen, x :: xs => if seen.contains x then dedup seen xs else dedup (x :: seen) xs

namespace Command

def findLong (c : Command) (name : String) : Option Flag := c.flags.find? (·.long == name)

def findShort (c : Command) (ch : Char) : Option Flag := c.flags.find? (·.short == some ch)

def hasCommands (c : Command) : Bool := !c.commands.isEmpty

/-- The usage line that help shows. -/
def fullUsage (c : Command) : String :=
  c.path ++ (if c.flags.any Flag.isOptional then " [OPTIONS]" else "") ++
    String.join ((c.flags.filter (·.required)).map fun f => " " ++ f.display) ++
    String.join (c.positionals.map fun p => " " ++ p.display false) ++
    (if c.hasCommands then " <COMMAND>" else "")

/-- A group as usage lines show it: its members between angle brackets, separated
by bars, options with their values and positional arguments by their names. -/
def groupText (c : Command) (g : ArgGroup) : String :=
  "<" ++ "|".intercalate (g.members.filterMap fun m =>
    ((c.findLong m).map Flag.display).orElse fun _ =>
      (c.positionals.find? (·.valueName == m)).map (·.valueName)) ++ ">"

/-- The usage line of an error about the arguments `used`, named by their long
names or value names. When the command's group is among them, the group stands
in for its members. -/
def smartUsage (c : Command) (used : List String) : String :=
  let group := c.group.filter fun g => used.contains g.id
  let members := (group.map (·.members)).getD []
  let ids := ((c.flags.filter (·.required)).map (·.long) ++ used).filter (!members.contains ·)
  let opts := dedup [] (ids.filterMap fun i => (c.findLong i).map Flag.display)
  c.path ++ String.join (opts.map (" " ++ ·)) ++
    (match group with
     | some g => " " ++ c.groupText g
     | none => "") ++
    String.join ((c.positionals.filter fun p => !members.contains p.valueName).map fun p =>
      " " ++ p.display (used.contains p.valueName)) ++
    (if c.hasCommands then " <COMMAND>" else "")

/-- The usage line of an error: the full one when no argument was used. -/
def usage (c : Command) (used : List String) : String :=
  "Usage: " ++ (if used.isEmpty then c.fullUsage else c.smartUsage used)

/-- Lines of two columns, the second starting two spaces after the widest first. -/
def columns (rows : List (String × String)) : String :=
  let width := rows.foldl (fun w r => max w r.1.length) 0
  String.join (rows.map fun (l, r) =>
    "  " ++ l ++ String.ofList (List.replicate (width - l.length + 2) ' ') ++ r ++ "\n")

/-- The help line of an option, with the value of its environment variable. -/
def flagHelp (env : String → Option String) (f : Flag) : String :=
  f.help ++ (match f.env with
    | some v => " [env: " ++ v ++ "=" ++ (env v).getD "" ++ "]"
    | none => "")

/-- The help page: what the command does, its usage, and its commands, positional
arguments and options, each part in two columns. -/
def helpText (c : Command) (env : String → Option String) : String :=
  let sections : List (String × List (String × String)) := [
    ("Commands", c.commands),
    ("Arguments", c.positionals.map fun p => (p.display false, p.help)),
    ("Options", ((c.flags.mergeSort fun a b => decide (a.sortKey.1 < b.sortKey.1 ∨
        (a.sortKey.1 = b.sortKey.1 ∧ a.sortKey.2 ≤ b.sortKey.2))).map fun f =>
      (f.spec, flagHelp env f)))]
  c.about ++ "\n\nUsage: " ++ c.fullUsage ++ "\n" ++
    String.join ((sections.filter (!·.2.isEmpty)).map fun (title, rows) =>
      "\n" ++ title ++ ":\n" ++ columns rows)

end Command

/-- The highest rank, which puts `--help` and `--version` last. -/
def lastRank : Nat := 1000

def logLevelFlag : Flag where
  long := "log-level"
  valueName := some "LOG_LEVEL"
  help := "Log filter (e.g. `debug`, `sieve_rewrite=trace`). Defaults to the rules file's " ++
    "`logging.level`; `RUST_LOG` takes precedence"
  env := some "SIEVE_LOG"

def helpFlag : Flag where
  long := "help"
  short := some 'h'
  action := .help
  help := "Print help"
  rank := lastRank

def versionFlag : Flag where
  long := "version"
  short := some 'V'
  action := .version
  help := "Print version"
  rank := lastRank

def configFlag : Flag where
  long := "config"
  short := some 'c'
  valueName := some "CONFIG"
  help := "Path to the rules file (YAML)"
  env := some "SIEVE_CONFIG"
  required := true
  check := .path

def rewriteCommand : Command where
  path := "sieve rewrite"
  about := "Rewrite one SQL statement with the rules from a rules file"
  flags := [configFlag,
    { long := "dialect", valueName := some "DIALECT", rank := 1, check := .dialect,
      help := "Parse with this dialect instead of the one in the rules file" },
    { long := "explain", action := .setTrue, rank := 2,
      help := "Print a JSON report instead of the rewritten SQL" },
    logLevelFlag, helpFlag]
  positionals := [{ valueName := "SQL", help := "SQL statement to rewrite. Read from stdin when omitted" }]
  group := some ⟨"rewrite-arguments", ["config", "dialect", "explain", "SQL"]⟩

def checkCommand : Command where
  path := "sieve check"
  about := "Validate a rules file against the schema and report problems"
  flags := [configFlag, logLevelFlag, helpFlag]
  group := some ⟨"check-arguments", ["config"]⟩

def helpCommand : Command where
  path := "sieve help"
  about := "Print this message or the help of the given subcommand(s)"
  flags := []
  positionals := [{ valueName := "COMMAND", help := "Print help for the subcommand(s)", many := true }]
  helpFlag := false

/-- The commands under the program, by name. -/
def commands : List (String × Command) :=
  [("rewrite", rewriteCommand), ("check", checkCommand), ("help", helpCommand)]

def program : Command where
  path := "sieve"
  about := "Sieve SQL rewrite engine"
  flags := [logLevelFlag, helpFlag, versionFlag]
  commands := commands.map fun (n, c) => (n, c.about)
  group := some ⟨"global-arguments", ["log-level"]⟩

/-- The program's name and version, as `--version` prints them. -/
def versionText : String := "sieve 0.1.0\n"

end SqlScope.Cli
