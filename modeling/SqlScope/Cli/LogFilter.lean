import SqlScope.Scope.Log

/-!
# Log filters

A log filter decides which log events a run shows. It is written as a
comma-separated list of directives; empty ones are skipped.

A directive is read by a small automaton over its characters, once the white space
around it is removed; what it takes from the directive it takes by byte position
from the directive as written, white space included. Its parts:

- a word, which starts with a letter, a digit, `_`, `:` or `-` and runs to the
  end, to `=` or to `[`; a word that runs to the end is a level when it reads as one
  and a target otherwise, so `info ` (with a space) is a target;
- a target followed by a span in square brackets, which may end with fields in
  braces (`[name{field=value,other}]`), or a span alone;
- after a target or a span, `=` and a level; an empty level means `trace`.

A level is a number from 0 to 5 (optionally with `+`) or one of `off`, `error`,
`warn`, `info`, `debug`, `trace` in any case. A directive that breaks these rules is
invalid; a level that reads as no level is reported as such.

Only directives without a span and without field values decide for an event
outside every span, and no event here is inside a span. Among those, the directives
that apply to an event are those whose target starts the event's target and whose
fields the event has; the most specific of them (longest target, then most fields)
shows the event when its verbosity reaches the event's level. A later directive
with the same target and fields replaces an earlier one.

The filter comes from the `RUST_LOG` environment variable when it is set and every
directive of it is well formed. Otherwise it comes from the configured level: each
malformed directive is reported and skipped, and a level left with no directive at
all shows errors.
-/

namespace SqlScope.Cli

open SqlScope.Text SqlScope.Scope

/-- Reads a level name: a number from 0 to 5 with an optional `+`, or a name in
any case; the empty text is the error level. The verbosity 0 shows nothing. -/
def parseLevel (s : String) : Option Nat :=
  let digits := match s.toList with
    | '+' :: ds => ds
    | ds => ds
  let number := digits.foldl (fun n d => 10 * n + (d.toNat - '0'.toNat)) 0
  if !digits.isEmpty && digits.all Char.isDigit && number ≤ 5 then some number
  else match asciiLowercase s with
    | "" => some 1
    | "off" => some 0
    | "error" => some 1
    | "warn" => some 2
    | "info" => some 3
    | "debug" => some 4
    | "trace" => some 5
    | _ => none

/-- A field a directive asks for, with the value it must have, if any. -/
structure FieldMatch where
  name : String
  value : Option String
  deriving Repr, BEq, Inhabited

/-- Reads `name` or `name=value`. -/
def FieldMatch.parse (text : String) : FieldMatch :=
  match text.splitOn "=" with
  | name :: value :: _ => ⟨name, some value⟩
  | _ => ⟨text, none⟩

/-- One directive of a log filter. -/
structure Directive where
  target : Option String := none
  span : Option String := none
  fields : List FieldMatch := []
  /-- The verbosity: 0 shows nothing, 5 shows every level. -/
  level : Nat := 5
  deriving Repr, BEq, Inhabited

/-- Why a directive cannot be read. -/
inductive DirectiveError where
  | invalid
  | level
  deriving Repr, BEq, DecidableEq, Inhabited

/-- The message a malformed directive is reported with. -/
def DirectiveError.text : DirectiveError → String
  | .invalid => "invalid filter directive"
  | .level => "error parsing level filter: expected one of \"off\", \"error\", \"warn\", " ++
      "\"info\", \"debug\", \"trace\", or a number 0-5"

/-- Where the automaton is in a directive; the numbers are byte positions where
the current part began. -/
inductive ReadState where
  | start
  | word (begin : Nat)
  | span (begin : Nat)
  | field (begin : Nat)
  | fields
  | target
  | level (begin : Nat)
  | complete
  deriving Repr, BEq, Inhabited

/-- The characters of `cs` that lie wholly between the byte positions `a` and `b`,
`pos` being the position of the first of them. -/
def bytesBetween : List Char → Nat → Nat → Nat → List Char
  | [], _, _, _ => []
  | c :: cs, pos, a, b =>
    let next := pos + c.utf8Size
    if a ≤ pos && next ≤ b then c :: bytesBetween cs next a b
    else bytesBetween cs next a b

/-- The text of a directive between two byte positions. -/
def byteSlice (src : List Char) (a b : Nat) : String := String.ofList (bytesBetween src 0 a b)

/-- A level read from its text; the empty text means `trace`. -/
def levelOf (text : String) : Except DirectiveError Nat :=
  if text.isEmpty then pure 5
  else match parseLevel text with
    | some l => pure l
    | none => throw .level

/-- A word that ends a directive: a level when it reads as one, else a target of
every level. -/
def wordDirective (d : Directive) (w : String) : Directive :=
  match parseLevel w with
  | some l => { d with level := l, target := none }
  | none => { d with level := 5, target := some w }

/-- Whether a character may start a word. -/
def startsWord (c : Char) : Bool :=
  c == '-' || c == ':' || c == '_' || isAlphabetic c || isNumeric c

/-- One step of the automaton: the character `c` at byte position `i` of the
trimmed directive, with `src` the directive as written. -/
def readChar (src : List Char) (total : Nat) (d : Directive) (i : Nat) (c : Char) :
    ReadState → Except DirectiveError (Directive × ReadState)
  | .start =>
    if c == '[' then pure (d, .span (i + 1))
    else if startsWord c then pure (d, .word i)
    else throw .invalid
  | .word b =>
    if c == '=' then pure ({ d with target := some (byteSlice src b i) }, .level (i + 1))
    else if c == '[' then pure ({ d with target := some (byteSlice src b i) }, .span (i + 1))
    else if c == ',' then pure (wordDirective d (byteSlice src b total), .complete)
    else pure (d, .word b)
  | .target => if c == '=' then pure (d, .level (i + 1)) else throw .invalid
  | .span b =>
    if c == ']' then pure ({ d with span := some (byteSlice src b i) }, .target)
    else if c == '{' then
      let name := byteSlice src b i
      pure ({ d with span := if name.isEmpty then none else some name }, .field (i + 1))
    else pure (d, .span b)
  | .field b =>
    if c == '}' || c == ',' then
      let text := byteSlice src b i
      if text.isEmpty then throw .invalid
      else
        let d := { d with fields := d.fields ++ [FieldMatch.parse text] }
        pure (d, if c == '}' then .fields else .field (i + 1))
    else pure (d, .field b)
  | .fields => if c == ']' then pure (d, .target) else throw .invalid
  | .level b =>
    if c == ',' then do
      let l ← levelOf (byteSlice src b i)
      pure ({ d with level := l }, .complete)
    else pure (d, .level b)
  | .complete => throw .invalid

/-- Runs the automaton over characters, `i` being the byte position of the first. -/
def readChars (src : List Char) (total : Nat) :
    List Char → Nat → Directive → ReadState → Except DirectiveError (Directive × ReadState)
  | [], _, d, st => pure (d, st)
  | c :: cs, i, d, st => do
    let (d, st) ← readChar src total d i c st
    readChars src total cs (i + c.utf8Size) d st

/-- The directive once every character is read: a word or a level runs to the end
of the directive as written. -/
def readEnd (src : List Char) (total : Nat) (d : Directive) : ReadState → Except DirectiveError Directive
  | .word b => pure (wordDirective d (byteSlice src b total))
  | .level b => do
    let l ← levelOf (byteSlice src b total)
    pure { d with level := l }
  | .target | .complete => pure d
  | _ => throw .invalid

/-- Reads one directive. -/
def parseDirective (text : String) : Except DirectiveError Directive := do
  let src := text.toList
  let total := text.utf8ByteSize
  let (d, st) ← readChars src total (trim text).toList 0 {} .start
  readEnd src total d st

/-- Whether a directive decides for events outside every span: it names no span
and asks for no field value. -/
def Directive.isStatic (d : Directive) : Bool := d.span.isNone && d.fields.all (·.value.isNone)

/-- A directive that decides for events outside every span. -/
structure StaticDirective where
  target : Option String
  fieldNames : List String
  level : Nat
  deriving Repr, BEq, Inhabited

def Directive.toStatic (d : Directive) : StaticDirective := ⟨d.target, d.fields.map (·.name), d.level⟩

/-- Whether two directives decide for the same events. -/
def StaticDirective.sameScope (a b : StaticDirective) : Bool :=
  a.target == b.target && a.fieldNames == b.fieldNames

/-- Whether a directive applies to an event: its target starts the event's target
and the event has each of its fields. -/
def StaticDirective.appliesTo (d : StaticDirective) (e : Event) : Bool :=
  d.target.all (fun t => e.target.startsWith t) && d.fieldNames.all e.fieldNames.contains

/-- Compares lists of names lexicographically. -/
def compareNames : List String → List String → Ordering
  | [], [] => .eq
  | [], _ :: _ => .lt
  | _ :: _, [] => .gt
  | a :: as, b :: bs => (compare a b).then (compareNames as bs)

/-- Compares optional texts, no text first. -/
def compareTarget : Option String → Option String → Ordering
  | none, none => .eq
  | none, some _ => .lt
  | some _, none => .gt
  | some a, some b => compare a b

/-- How much a target narrows a directive: no target least, then by length in
bytes. -/
def targetWeight : Option String → Nat
  | none => 0
  | some t => t.utf8ByteSize + 1

/-- Orders directives by how specific they are: the longer target (in bytes; none
is shortest), then more fields, then the greater target and field names. A
directive that compares greater is tried first. -/
def StaticDirective.specificity (a b : StaticDirective) : Ordering :=
  (compare (targetWeight a.target) (targetWeight b.target)).then
  ((compare a.fieldNames.length b.fieldNames.length).then
  ((compareTarget a.target b.target).then (compareNames a.fieldNames b.fieldNames)))

/-- A log filter: the directives that decide for events outside every span, each
with a scope of its own, in the order they were given. -/
structure LogFilter where
  directives : List StaticDirective
  deriving Repr, BEq, Inhabited

namespace LogFilter

/-- Adds a directive, replacing one with the same scope. -/
def add (f : LogFilter) (d : StaticDirective) : LogFilter :=
  if f.directives.any d.sameScope then ⟨f.directives.map fun e => if d.sameScope e then d else e⟩
  else ⟨f.directives ++ [d]⟩

/-- The filter of a list of directives. With `errorsByDefault`, a list with no
directive at all shows errors. -/
def ofDirectives (errorsByDefault : Bool) (ds : List Directive) : LogFilter :=
  let f := (ds.filter Directive.isStatic).foldl (fun f d => f.add d.toStatic) ⟨[]⟩
  if errorsByDefault && ds.isEmpty then ⟨[⟨none, [], 1⟩]⟩ else f

/-- The most specific directive that applies to an event. -/
def decider (f : LogFilter) (e : Event) : Option StaticDirective :=
  (f.directives.filter (·.appliesTo e)).foldl (fun best d =>
    match best with
    | some b => if d.specificity b == .gt then some d else some b
    | none => some d) none

/-- Whether the filter shows an event. -/
def shows (f : LogFilter) (e : Event) : Bool :=
  match f.decider e with
  | some d => e.level.rank ≤ d.level
  | none => false

end LogFilter

/-- The directives of a filter's text, the empty ones skipped. -/
def directiveTexts (filter : String) : List String := (filter.splitOn ",").filter (!·.isEmpty)

/-- The filter of the `RUST_LOG` variable, when every directive of it is well formed. -/
def environmentFilter (text : String) : Option LogFilter :=
  match (directiveTexts text).mapM parseDirective with
  | .ok ds => some (LogFilter.ofDirectives false ds)
  | .error _ => none

/-- The filter of a configured level, with the line written for each of its
malformed directives. -/
def levelFilter (level : String) : LogFilter × String :=
  let read := (directiveTexts level).map fun t => (t, parseDirective t)
  let ds := read.filterMap fun (_, r) => r.toOption
  let warnings := read.filterMap fun (t, r) => match r with
    | .error e => some ("ignoring `" ++ t ++ "`: " ++ e.text ++ "\n")
    | .ok _ => none
  (LogFilter.ofDirectives true ds, String.join warnings)

/-- The log filter of a run and the warnings written while setting it up. -/
def setupLogging (envFilter : Option String) (level : String) : LogFilter × String :=
  match envFilter.bind environmentFilter with
  | some f => (f, "")
  | none => levelFilter level

/-- What remains of an event's log record once its first line, which starts with
the time, is dropped: the later lines of its text, each ending with a line break. -/
def continuationOf (e : Event) : String :=
  match e.text.splitOn "\n" with
  | _ :: rest => String.join (rest.map (· ++ "\n"))
  | [] => ""

/-- What the shown events leave on standard error once their first lines are
dropped. -/
def logText (f : LogFilter) (events : List Event) : String :=
  String.join ((events.filter f.shows).map continuationOf)

/-- The lines of a text: split at line feeds, each line without the carriage
return that ends it, and without an empty line after a final line feed. -/
def textLines (s : String) : List String :=
  let parts := s.splitOn "\n"
  let dropReturn (l : String) : String := if l.endsWith "\r" then String.ofList l.toList.dropLast else l
  (parts.dropLast.map dropReturn) ++ (match parts.getLast? with
    | some last => if last.isEmpty then [] else [last]
    | none => [])

/-- Whether a line starts with a date and the letter `T`, as `2024-01-31T` does. -/
def startsWithDate (cs : List Char) : Bool :=
  match cs with
  | y1 :: y2 :: y3 :: y4 :: '-' :: m1 :: m2 :: '-' :: d1 :: d2 :: 'T' :: _ =>
    [y1, y2, y3, y4, m1, m2, d1, d2].all Char.isDigit
  | _ => false

/-- The words of the characters `cs`, split at white space; `w` holds the current
word, reversed. -/
def lineWordsOf : List Char → List Char → List String
  | [], w => if w.isEmpty then [] else [String.ofList w.reverse]
  | c :: cs, w =>
    if isWhitespace c then
      if w.isEmpty then lineWordsOf cs [] else String.ofList w.reverse :: lineWordsOf cs []
    else lineWordsOf cs (c :: w)

/-- The words of a line, split at white space. -/
def lineWords (s : String) : List String := lineWordsOf s.toList []

/-- Whether a line is a log line: it starts with a date and its second word is a
level name. -/
def isLogLine (line : String) : Bool :=
  startsWithDate line.toList &&
    match lineWords line with
    | _ :: w :: _ => ["TRACE", "DEBUG", "INFO", "WARN", "ERROR"].contains w
    | _ => false

/-- Standard error as a run reports it: the lines that are not log lines, each
ending with a line break. -/
def reportedErrorText (s : String) : String :=
  String.join (((textLines s).filter (!isLogLine ·)).map (· ++ "\n"))

end SqlScope.Cli
