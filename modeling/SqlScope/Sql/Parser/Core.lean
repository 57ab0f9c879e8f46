import SqlScope.Sql.Lexer
import SqlScope.Sql.Printer
import SqlScope.Sql.Keyword

/-!
# Parser state and primitive steps

The grammar runs in `Parser`: it reads the token array and a recursion budget
from its environment and keeps the index of the next token as its state. A
failed alternative that is caught (`tryParse`, `maybeParse`) leaves the index where
it was before the alternative started, because the state of a failed run is
discarded.

The recursion budget counts nested statements, queries and expressions. Entering
one with no budget left fails with `ParseError.recursion`, which no alternative
catches: deeply nested input is rejected even where a shallower reading would
have parsed.
-/

namespace SqlScope.Sql

/-- Why SQL text could not be parsed. -/
inductive ParseError where
  /-- A syntax error, with the message and position already formatted, and the index
  of the token the parser had reached when it gave up. -/
  | message (text : String) (index : Nat)
  /-- The input nests deeper than the recursion budget allows. -/
  | recursion
  deriving Repr, BEq, Inhabited

/-- The text of a parse error as reported to the user. -/
def ParseError.text : ParseError → String
  | .message t _ => "sql parser error: " ++ t
  | .recursion => "sql parser error: recursion limit exceeded"

/-- What the grammar reads: the dialect, the tokens, and how many more nested
statements, queries and expressions may be entered. -/
structure ParseEnv where
  dialect : Dialect
  tokens : Array Located
  budget : Nat
  /-- Inside the options of a column, where `NOT NULL` is an option rather than a test. -/
  columnDefinition : Bool := false

/-- A parser: reads the environment, advances the token index, may fail. -/
abbrev Parser := ReaderT ParseEnv (StateT Nat (Except ParseError))

namespace Parser

/-- The end-of-input token, which has no position. -/
def eofToken : Located := { token := .eof, line := 0, col := 0 }

/-- The token `k` places after the current one. -/
def peekAt (k : Nat) : Parser Located := do
  let env ← read
  let i ← get
  return env.tokens.getD (i + k) eofToken

def peek : Parser Located := peekAt 0

def peekToken : Parser Token := return (← peek).token

def advance : Parser Unit := modify (· + 1)

/-- The current token, consumed. -/
def next : Parser Located := do
  let t ← peek
  advance
  return t

/-- Steps back over the last consumed token. -/
def back : Parser Unit := modify (· - 1)

def dialect : Parser Dialect := return (← read).dialect

/-- ` at Line: l, Column: c` for a token with a position, nothing for the end of input. -/
def locationText (t : Located) : String :=
  if t.line == 0 then "" else " at Line: " ++ toString t.line ++ ", Column: " ++ toString t.col

/-- Fails with a message that carries no position. -/
def failWith (msg : String) : Parser α := do
  throw (.message msg (← get))

/-- Fails with a message and the position of a token. -/
def failAt (msg : String) (t : Located) : Parser α :=
  failWith (msg ++ locationText t)

/-- Fails with `Expected: what, found: token`. -/
def expected (what : String) (found : Located) : Parser α :=
  failAt ("Expected: " ++ what ++ ", found: " ++ found.token.text) found

/-- Runs `p`; on a syntax error returns the error with the index unchanged. -/
def tryParse (p : Parser α) : Parser (Except ParseError α) :=
  tryCatch (.ok <$> p) (fun e => pure (.error e))

/-- Runs `p` as an alternative: a syntax error means the alternative does not apply
and leaves the index unchanged; running out of recursion budget is still an error. -/
def maybeParse (p : Parser α) : Parser (Option α) := do
  match ← tryParse p with
  | .ok a => return some a
  | .error .recursion => throw .recursion
  | .error (.message _ _) => return none

/-- Runs `p` and keeps what it read even when it fails: after a syntax error the
index stays where the error was raised, as when a failed attempt is abandoned
without going back. Running out of recursion budget also counts as a failure here,
with the index unchanged. -/
def attempt (p : Parser α) : Parser (Option α) := do
  match ← tryParse p with
  | .ok a => return some a
  | .error (.message _ i) =>
    set i
    return none
  | .error .recursion => return none

/-- Runs `p` one level deeper, failing when the recursion budget is spent. -/
def nested (p : Parser α) : Parser α := do
  let env ← read
  if env.budget == 0 then throw .recursion
  withReader (fun e => { e with budget := e.budget - 1 }) p

/-- Runs `p` with `NOT NULL` read as a column option (`on`) or as a test. -/
def inColumnDefinition (on : Bool) (p : Parser α) : Parser α :=
  withReader (fun e => { e with columnDefinition := on }) p

/-- Whether the current token is the keyword `kw`. -/
def peekKeyword (kw : String) : Parser Bool := return (← peekToken).isKeyword kw

/-- Consumes the keyword `kw` if it is next. -/
def parseKeyword (kw : String) : Parser Bool := do
  if ← peekKeyword kw then advance; return true
  return false

/-- Consumes the keywords `kws` if they all come next, in order; otherwise consumes
nothing. -/
def parseKeywords (kws : List String) : Parser Bool := do
  let start ← get
  for kw in kws do
    if !(← parseKeyword kw) then
      set start
      return false
  return true

/-- Consumes whichever of the keywords `kws` is next. -/
def parseOneOfKeywords (kws : List String) : Parser (Option String) := do
  let t ← peekToken
  match kws.find? t.isKeyword with
  | some kw => advance; return some kw
  | none => return none

def expectKeyword (kw : String) : Parser Unit := do
  if !(← parseKeyword kw) then expected kw (← peek)

def expectKeywords (kws : List String) : Parser Unit := do
  for kw in kws do expectKeyword kw

def expectOneOfKeywords (kws : List String) : Parser String := do
  match ← parseOneOfKeywords kws with
  | some kw => return kw
  | none => expected ("one of " ++ " or ".intercalate kws) (← peek)

/-- Whether the current token is the symbol `s`. -/
def peekSym (s : String) : Parser Bool := return (← peekToken) == .sym s

/-- Consumes the symbol `s` if it is next. -/
def consumeSym (s : String) : Parser Bool := do
  if ← peekSym s then advance; return true
  return false

def expectSym (s : String) : Parser Unit := do
  if !(← consumeSym s) then expected s (← peek)

/-- `p` only when `enabled` holds: a parser that consumes nothing in the dialects
that lack a construct. -/
def parseWhen (enabled : Bool) (p : Parser Bool) : Parser Bool :=
  if enabled then p else pure false

/-- `p`, and `q` only when `p` found nothing: the short-circuit disjunction of two
parsers, so that `q` never consumes what follows a success of `p`. -/
def parseEither (p q : Parser Bool) : Parser Bool := do
  if ← p then return true
  q

/-- `p` repeated while a comma follows; at least once. -/
def commaSeparated (p : Parser α) : Parser (List α) := do
  let fuel := (← read).tokens.size + 1
  let rec go : Nat → List α → Parser (List α)
    | 0, acc => return acc.reverse
    | k + 1, acc => do
      let x ← p
      if ← consumeSym "," then go k (x :: acc) else return (x :: acc).reverse
  go fuel []

/-- Applies `step` to the state until it answers `none`, at most once per token. -/
def iterate (step : σ → Parser (Option σ)) (init : σ) : Parser σ := do
  let fuel := (← read).tokens.size + 1
  let rec go : Nat → σ → Parser σ
    | 0, s => return s
    | k + 1, s => do
      match ← step s with
      | some s' => go k s'
      | none => return s
  go fuel init

/-- `p` between parentheses. -/
def parenthesized (p : Parser α) : Parser α := do
  expectSym "("
  let x ← p
  expectSym ")"
  return x

/-- An identifier: any word, or a quoted string standing for a quoted name. -/
def parseIdentifier : Parser Ident := do
  let t ← next
  match t.token with
  | .word v q => return ⟨v, q⟩
  | .singleQuoted s => return ⟨s, some '\''⟩
  | .doubleQuoted s => return ⟨s, some '"'⟩
  | _ => expected "identifier" t

/-- A dotted name `a.b.c`. -/
def parseObjectName : Parser Name := do
  let fuel := (← read).tokens.size + 1
  let rec go : Nat → List Ident → Parser (List Ident)
    | 0, acc => return acc.reverse
    | k + 1, acc => do
      let i ← parseIdentifier
      if ← consumeSym "." then go k (i :: acc) else return (i :: acc).reverse
  return ⟨← go fuel []⟩

/-- Reads a non-negative integer that fits in 64 bits from its decimal digits. -/
def parseU64 (s : String) (t : Located) : Parser Nat := do
  let cs := s.toList
  if cs.isEmpty then failAt ("Could not parse '" ++ s ++ "' as u64: cannot parse integer from empty string") t
  if !cs.all Char.isDigit then
    failAt ("Could not parse '" ++ s ++ "' as u64: invalid digit found in string") t
  let n := cs.foldl (fun acc c => acc * 10 + (c.toNat - '0'.toNat)) 0
  if n ≥ Nat.pow 2 64 then
    failAt ("Could not parse '" ++ s ++ "' as u64: number too large to fit in target type") t
  return n

/-- A number literal read as an unsigned 64-bit integer. -/
def parseLiteralUint : Parser Nat := do
  let t ← next
  match t.token with
  | .number s _ => parseU64 s t
  | _ => expected "literal int" t

/-- The string `s` with the quoted strings that directly follow it appended, in a
dialect that joins adjacent string literals. -/
def concatStrings (s : String) : Parser String := do
  if !(← dialect).concatenatesStrings then return s
  iterate (fun acc => do
    match ← peekToken with
    | .singleQuoted t | .doubleQuoted t =>
      advance
      return some (acc ++ t)
    | _ => return none) s

/-- A literal value: a number, a string of any kind, a boolean, `NULL` or a
placeholder. -/
def parseValue : Parser Value := do
  let t ← next
  match t.token with
  | .word v q =>
    match q with
    | none =>
      match keywordText v with
      | "TRUE" => if (← dialect).hasBooleanLiterals then return .boolean true else expected "a concrete value" t
      | "FALSE" => if (← dialect).hasBooleanLiterals then return .boolean false else expected "a concrete value" t
      | "NULL" => return .null
      | _ => expected "a concrete value" t
    | some '"' => return .doubleQuoted v
    | some '\'' => return .singleQuoted v
    | some _ => expected "A value?" t
  | .number s _ => return .number s
  | .singleQuoted s => return .singleQuoted (← concatStrings s)
  | .doubleQuoted s => return .doubleQuoted (← concatStrings s)
  | .national s => return .national s
  | .escaped s => return .escaped s
  | .hex s => return .hex s
  | .byteString s => return .byteString s
  | .unicode s => return .unicode s
  | .dollarQuoted tag s => return .dollarQuoted tag s
  | .placeholder s => return .placeholder s
  | .sym ":" | .sym "@" =>
    let n ← peek
    -- the name must follow the sign directly: spaces or a comment between are what
    -- was found instead
    match n.gap with
    | some g => failWith ("Expected: placeholder, found: " ++ g.text ++
        locationText { token := .space g.text, line := g.line, col := g.col })
    | none =>
      match n.token with
      | .word v _ => advance; return .placeholder (t.token.text ++ v)
      | .number v false => advance; return .placeholder (t.token.text ++ v)
      | _ => expected "placeholder" n
  | _ => expected "a value" t

/-- A literal string: a quoted string, or a word that is not a keyword, which stands
for its own text. -/
def parseLiteralString : Parser String := do
  let t ← next
  match t.token with
  | .singleQuoted s => return s
  | .doubleQuoted s => return s
  | .unicode s => return s
  | .escaped s =>
    let d ← dialect
    if d == .postgres || d == .generic then return s
    expected "literal string" t
  | .word v _ => if t.token.isPlainWord then return v else expected "literal string" t
  | _ => expected "literal string" t

end Parser

end SqlScope.Sql
