import SqlScope.Cli.Interface
import SqlScope.Sql.Dialect

/-!
# Reading the command line

The arguments are read one by one, left to right, at the level of the program
and then of the command named:

- a command name, unless `--` came before, starts that command with the
  arguments after it (`help` prints the help of the commands named after it);
- `--` makes every later argument a positional value;
- `--name` or `--name=value` is a long option, `-abc` a run of one-letter
  options, the last of which may take the rest of the run (or what follows an
  `=`) as its value;
- an option that takes a value and has none attached takes the next argument
  that is neither an option nor a command name;
- anything else is the next positional value.

An option is recorded once its value is known, at the next option or positional
value, or at the end; a second use of it is refused. Then the environment fills
in options that were not given, and a missing required option is refused. The
first problem met ends the reading, with the message and usage line that
`Failure.text` writes; `--help` and `--version` end it too.

## Main definitions

- `Failure` — why reading stopped, and its text
- `parse` — the arguments as an `Invocation`
-/

namespace SqlScope.Cli

open SqlScope.Sql

/-- Where a value came from; the command line outranks the environment. -/
inductive Source where
  | env | commandLine
  deriving Repr, BEq, Inhabited

def Source.rank : Source → Nat
  | .env => 1 | .commandLine => 2

/-- An argument that was given: its long name or value name, its values, and
where they came from. -/
structure Given where
  key : String
  values : List String
  source : Source
  deriving Repr, Inhabited

/-- Why reading the arguments stopped early. -/
inductive Failure where
  /-- An argument that is no option here; perhaps a similar option of this
  command, or an option of a command named later; and whether to suggest `--`. -/
  | unknownArgument (arg : String) (similar : Option String) (elsewhere : Option String)
      (valueTip : Bool) (usage : String)
  /-- A name that is no command here, with the similar ones, and whether to point
  to `--help`. -/
  | unknownCommand (name : String) (similar : List String) (usage : String) (hint : Bool)
  /-- A value attached to an option that takes none. -/
  | unexpectedValue (value flag usage : String)
  | missingValue (flag : String)
  | invalidValue (value flag reason : String)
  | repeated (flag usage : String)
  | missingRequired (flags : List String) (usage : String)
  | missingCommand (names : List String) (usage : String)
  /-- A command name placed after `--`. -/
  | needlessEscape (command usage : String)
  /-- Nothing at all was given: the help page, as an error. -/
  | helpOnEmpty (text : String)
  | help (text : String)
  | version
  deriving Repr, Inhabited

namespace Failure

/-- The line that points to more help. -/
def hintText (hint : Bool) : String :=
  if hint then "\n\nFor more information, try '--help'.\n" else "\n"

/-- Names in single quotes, separated by commas. -/
def quotedList (names : List String) : String := ", ".intercalate (names.map fun n => "'" ++ n ++ "'")

/-- The message of a failure, on standard error. -/
def text : Failure → String
  | .unknownArgument arg similar elsewhere valueTip usage =>
    let first := match similar with
      | some s => "\n\n  tip: a similar argument exists: '" ++ s ++ "'"
      | none => ""
    let tips := (if valueTip then ["to pass '" ++ arg ++ "' as a value, use '-- " ++ arg ++ "'"] else []) ++
      (match elsewhere with | some e => ["'" ++ e ++ "' exists"] | none => [])
    let more := match tips with
      | [] => ""
      | _ => (if similar.isSome then "" else "\n") ++ String.join (tips.map ("\n  tip: " ++ ·))
    "error: unexpected argument '" ++ arg ++ "' found" ++ first ++ more ++ "\n\n" ++ usage ++
      hintText true
  | .unknownCommand name similar usage hint =>
    let tip := match similar with
      | [] => ""
      | [s] => "\n\n  tip: a similar subcommand exists: '" ++ s ++ "'"
      | ss => "\n\n  tip: some similar subcommands exist: " ++ quotedList ss
    "error: unrecognized subcommand '" ++ name ++ "'" ++ tip ++ "\n\n" ++ usage ++ hintText hint
  | .unexpectedValue value flag usage =>
    "error: unexpected value '" ++ value ++ "' for '" ++ flag ++ "' found; no more were expected\n\n" ++
      usage ++ hintText true
  | .missingValue flag =>
    "error: a value is required for '" ++ flag ++ "' but none was supplied" ++ hintText true
  | .invalidValue value flag reason =>
    "error: invalid value '" ++ value ++ "' for '" ++ flag ++ "': " ++ reason ++ hintText true
  | .repeated flag usage =>
    "error: the argument '" ++ flag ++ "' cannot be used multiple times\n\n" ++ usage ++ hintText true
  | .missingRequired flags usage =>
    "error: the following required arguments were not provided:" ++
      String.join (flags.map ("\n  " ++ ·)) ++ "\n\n" ++ usage ++ hintText true
  | .missingCommand names usage =>
    "error: 'sieve' requires a subcommand but one was not provided\n  [subcommands: " ++
      ", ".intercalate names ++ "]\n\n" ++ usage ++ hintText true
  | .needlessEscape command usage =>
    "error: unexpected argument '--' found\n\n  tip: subcommand '" ++ command ++
      "' exists; to use it, remove the '--' before it\n\n" ++ usage ++ hintText true
  | .helpOnEmpty text => text
  | .help text => text
  | .version => versionText

end Failure

/-! ### Similar names -/

/-- The Jaro similarity of two texts as a fraction: characters match when equal
and near enough, and half of the matched characters out of order count as
transpositions. -/
def jaro (a b : String) : Nat × Nat :=
  let as := a.toList
  let bs := b.toList
  let la := as.length
  let lb := bs.length
  if la == 0 && lb == 0 then (1, 1)
  else if la == 0 || lb == 0 then (0, 1)
  else
    let range := max la lb / 2 - 1
    let step := fun (acc : List Bool × List Bool) (p : Char × Nat) =>
      let (af, bf) := acc
      let (ch, i) := p
      let hi := min lb (i + range + 1)
      match (List.range hi).find? (fun j => i - range ≤ j && bs.getD j ' ' == ch && !bf.getD j true) with
      | some j => (af ++ [true], bf.set j true)
      | none => (af ++ [false], bf)
    let (af, bf) := as.zipIdx.foldl step ([], List.replicate lb false)
    let ma := (as.zip af).filterMap fun (ch, f) => if f then some ch else none
    let mb := (bs.zip bf).filterMap fun (ch, f) => if f then some ch else none
    let m := ma.length
    let t := ((ma.zip mb).filter fun (x, y) => x != y).length / 2
    if m == 0 then (0, 1)
    else (m * m * lb + m * m * la + (m - t) * la * lb, 3 * la * lb * m)

/-- The candidates more than 0.7 similar to a text, the least similar first. -/
def similarTo (text : String) (candidates : List String) : List String :=
  let scored := candidates.filterMap fun c =>
    let (n, d) := jaro text c
    if 10 * n > 7 * d then some (c, n, d) else none
  (scored.mergeSort fun x y => decide (x.2.1 * y.2.2 ≤ y.2.1 * x.2.2)).map (·.1)

/-! ### The state of a reading -/

/-- What has been read at one level. -/
structure Scan where
  given : List Given := []
  /-- An option seen without its value, with the values gathered for it so far. -/
  pending : Option (Flag × List String) := none
  /-- Whether the next argument is the value of the pending option. -/
  awaiting : Bool := false
  /-- How many positional values were taken. -/
  taken : Nat := 0
  /-- Whether `--` was seen. -/
  escaped : Bool := false
  /-- The positional argument taken last, while no option has been read after
  it: it counts as used only once one is. -/
  openPositional : Option String := none
  deriving Inhabited

namespace Scan

def has (s : Scan) (key : String) : Bool := s.given.any (·.key == key)

def used (s : Scan) : List String := s.given.map (·.key)

def add (s : Scan) (key : String) (values : List String) (source : Source) : Scan :=
  { s with given := s.given ++ [⟨key, values, source⟩] }

def value? (s : Scan) (key : String) : Option String :=
  (s.given.find? (·.key == key)).bind (·.values.head?)

/-- Takes an argument as the value of the pending option. -/
def push (s : Scan) (arg : String) : Scan :=
  { s with pending := s.pending.map (fun (f, vs) => (f, vs ++ [arg])), awaiting := false }

/-- Records the pending option as far as it can be when reading has already
failed: with no value it is dropped, and a second use removes the first. -/
def settle (s : Scan) : Scan :=
  match s.pending with
  | none => s
  | some (f, vs) =>
    let s := { s with pending := none }
    if vs.isEmpty then s
    else if s.has f.long then { s with given := s.given.filter (·.key != f.long) }
    else s.add f.long vs .commandLine

end Scan

/-- The problem with a value of an option, if any. -/
def checkValue (f : Flag) (v : String) : Option Failure :=
  match f.check with
  | .any => none
  | .path => if v.isEmpty then some (.missingValue f.display) else none
  | .dialect =>
    match Dialect.parse v with
    | .ok _ => none
    | .error m => some (.invalidValue v f.display m)

/-- Records an option with its values. From the command line, an option that
takes a value must have one; `--help` and `--version` end the reading. -/
def record (c : Command) (env : String → Option String) (s : Scan) (f : Flag)
    (values : List String) (source : Source) : Except Failure Scan := do
  if source == .commandLine && f.action == .set && values.isEmpty then
    throw (.missingValue f.display)
  match f.action with
  | .help => throw (.help (c.helpText env))
  | .version => throw .version
  | _ =>
    if s.has f.long then throw (.repeated f.display (c.usage []))
    match values.findSome? (checkValue f) with
    | some e => throw e
    | none => pure (s.add f.long values source)

/-- Records the pending option, if any. -/
def resolve (c : Command) (env : String → Option String) (s : Scan) : Except Failure Scan :=
  match s.pending with
  | none => pure s
  | some (f, vs) => record c env { s with pending := none } f vs .commandLine

/-- Records an option given on the command line, after the pending one. -/
def give (c : Command) (env : String → Option String) (s : Scan) (f : Flag) (values : List String) :
    Except Failure Scan := do
  let s ← resolve c env s
  let s ← record c env s f values .commandLine
  pure { s with awaiting := false, openPositional := none }

/-- Waits for the value of an option. -/
def expect (c : Command) (env : String → Option String) (s : Scan) (f : Flag) : Except Failure Scan := do
  let s ← resolve c env s
  pure { s with pending := some (f, []), awaiting := true, openPositional := none }

/-- An option similar to an unknown long name: one of this command, or else one
of a command named later among the arguments, the earliest such command. -/
def similarFlag (c : Command) (name : String) (rest : List String) : Option (String × Option String) :=
  match (similarTo name (c.flags.map (·.long))).getLast? with
  | some s => some (s, none)
  | none =>
    let found := (commands.filter fun (n, _) => c.commands.any (·.1 == n)).filterMap fun (n, sub) =>
      match (similarTo name (sub.flags.map (·.long))).getLast?, rest.idxOf? n with
      | some s, some pos => some (pos, s, n)
      | _, _ => none
    match found.foldl (fun best x => match best with
        | some b => if x.1 < b.1 then some x else some b
        | none => some x) none with
    | some (_, s, n) => some (s, some n)
    | none => none

/-- Splits `name=value` at the first `=`. -/
def splitAttached (body : String) : String × Option String :=
  match body.splitOn "=" with
  | name :: v :: vs => (name, some ("=".intercalate (v :: vs)))
  | _ => (body, none)

/-- Reads a long option, `body` being what follows `--`. -/
def longArg (c : Command) (env : String → Option String) (s : Scan) (body : String)
    (rest : List String) : Except Failure Scan :=
  let (name, attached) := splitAttached body
  match c.findLong name with
  | some f =>
    if f.action == .set then
      match attached with
      | some v => give c env s f [v]
      | none => expect c env s f
    else
      match attached with
      | some v =>
        let recorded := s.given.filter fun g => s.openPositional != some g.key
        let used := (recorded.filter fun g => !(c.flags.any fun o => o.long == g.key && o.required)).map (·.key)
        let grouped := match c.group with
          | some g => if recorded.any (g.members.contains ·.key) then [g.id] else []
          | none => []
        throw (.unexpectedValue v f.display (c.usage (used ++ grouped ++ [f.long])))
      | none => give c env s f []
  | none =>
    let s := s.settle
    let similar := similarFlag c name rest
    let s := match similar with
      | some (n, none) => if s.has n then s else s.add n [] .commandLine
      | _ => s
    let valueTip := similar.isNone && !c.positionals.isEmpty
    throw (.unknownArgument ("--" ++ name) (similar.bind fun (n, sub) => if sub.isNone then some ("--" ++ n) else none)
      (similar.bind fun (n, sub) => sub.map (· ++ " --" ++ n)) valueTip (c.usage s.used))

/-- Reads a run of one-letter options. -/
def shortArgs (c : Command) (env : String → Option String) (s : Scan) : List Char → Except Failure Scan
  | [] => pure { s with awaiting := false }
  | ch :: more =>
    match c.findShort ch with
    | some f =>
      if f.action == .set then
        match more with
        | [] => expect c env s f
        | '=' :: v => give c env s f [String.ofList v]
        | v => give c env s f [String.ofList v]
      else do
        let s ← give c env s f []
        shortArgs c env s more
    | none =>
      throw (.unknownArgument ("-" ++ ch.toString) none none (!c.positionals.isEmpty) (c.usage []))

/-- The failure for an argument that has no place. -/
def unmatched (c : Command) (arg : String) (escaped : Bool) : Failure :=
  if escaped && c.commands.any (·.1 == arg) then .needlessEscape arg (c.usage [])
  else if c.hasCommands then .unknownCommand arg (similarTo arg (c.commands.map (·.1))) (c.usage []) true
  else .unknownArgument arg none none false (c.usage [])

/-- Takes the next positional value. -/
def positional (c : Command) (env : String → Option String) (s : Scan) (arg : String) :
    Except Failure Scan :=
  match c.positionals[s.taken]? with
  | some p => do
    let s ← resolve c env s
    pure { s with
      given := s.given ++ [⟨p.valueName, [arg], .commandLine⟩]
      taken := s.taken + 1
      openPositional := some p.valueName }
  | none => throw (unmatched c arg s.escaped)

/-- How reading one level ended: at the end of the arguments, or at the name of
a command, with the arguments after it. -/
inductive Stop where
  | done
  | command (name : String) (rest : List String)

/-- Reads the arguments of one level. -/
def scan (c : Command) (env : String → Option String) (s : Scan) : List String → Except Failure (Scan × Stop)
  | [] => pure (s, .done)
  | arg :: rest =>
    if !s.escaped && c.commands.any (·.1 == arg) then pure (s, .command arg rest)
    else if !s.escaped && arg == "--" then scan c env { s with escaped := true } rest
    else if !s.escaped && arg.startsWith "--" then do
      let s ← longArg c env s (String.ofList (arg.toList.drop 2)) rest
      scan c env s rest
    else if !s.escaped && arg.startsWith "-" && arg != "-" then do
      let s ← shortArgs c env s (arg.toList.drop 1)
      scan c env s rest
    else if !s.escaped && s.awaiting then scan c env (s.push arg) rest
    else do
      let s ← positional c env s arg
      scan c env s rest

/-- Ends the reading of one level: records the pending option, then fills in
options from the environment. -/
def finish (c : Command) (env : String → Option String) (s : Scan) : Except Failure Scan := do
  let s ← resolve c env s
  c.flags.foldlM (fun s f =>
    match f.env with
    | some name =>
      if s.has f.long then pure s
      else match env name with
        | some v => record c env s f [v] .env
        | none => pure s
    | none => pure s) s

/-- Refuses a missing required option. -/
def requireAll (c : Command) (s : Scan) : Except Failure Unit :=
  match c.flags.filter fun f => f.required && !s.has f.long with
  | [] => pure ()
  | missing => throw (.missingRequired (missing.map (·.display)) (c.usage (s.used ++ missing.map (·.long))))

/-- The help page of the command reached by following the names. -/
def helpFor (env : String → Option String) (c : Command) : List String → Failure
  | [] => .help (c.helpText env)
  | n :: ns =>
    match (if c.hasCommands then commands.lookup n else none) with
    | some sub => helpFor env sub ns
    | none => .unknownCommand n [] (c.usage []) c.helpFlag

/-- What a command line asks for. -/
inductive Request where
  | rewrite (config : String) (dialect : Option Dialect) (explain : Bool) (sql : Option String)
  | check (config : String)
  deriving Repr, Inhabited

/-- A command line that was read: the log filter asked for, and the request. -/
structure Invocation where
  logLevel : Option String
  request : Request
  deriving Repr, Inhabited

/-- The value of an option given at both levels: the one from the better source,
the command's on a tie. -/
def choose (top sub : Scan) (key : String) : Option String :=
  match top.given.find? (·.key == key), sub.given.find? (·.key == key) with
  | some t, some s => if s.source.rank ≥ t.source.rank then s.values.head? else t.values.head?
  | some t, none => t.values.head?
  | none, some s => s.values.head?
  | none, none => none

/-- Reads a command line, without the program's name, with `env` giving the
environment variables that are set. -/
def parse (env : String → Option String) (args : List String) : Except Failure Invocation := do
  let (top, stop) ← scan program env {} args
  match stop with
  | .command "help" rest => throw (helpFor env program rest)
  | .command name rest =>
    let sub := (commands.lookup name).getD checkCommand
    let (s, _) ← scan sub env {} rest
    let s ← finish sub env s
    requireAll sub s
    let top ← finish program env top
    let logLevel := choose top s "log-level"
    let config := (s.value? "config").getD ""
    if name == "rewrite" then
      pure ⟨logLevel, .rewrite config ((s.value? "dialect").bind fun d => (Dialect.parse d).toOption)
        (s.has "explain") (s.value? "SQL")⟩
    else pure ⟨logLevel, .check config⟩
  | .done =>
    let top ← finish program env top
    if top.given.isEmpty then throw (.helpOnEmpty (program.helpText env))
    else throw (.missingCommand (program.commands.map (·.1)) (program.usage []))

end SqlScope.Cli
