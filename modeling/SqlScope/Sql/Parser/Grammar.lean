import SqlScope.Sql.Parser.DataType

/-!
# The grammar of queries and expressions

Queries, table sources, expressions and the data-modifying statements (`INSERT`,
`UPDATE`, `DELETE`, `MERGE`, which may stand where a query does) contain one
another, so their parsers form one mutual family. Every member takes a `fuel` argument that shrinks on each call
within the family; this bounds the depth of the recursion, and running out is
reported like the recursion limit. The fuel given by the caller is far above what
any input the recursion budget admits can use.

Expressions are read by precedence climbing: `parseSubexpr prec` reads a prefix
and then every infix operator that binds tighter than `prec`. Statements,
queries and expressions each use one level of the recursion budget.
-/

namespace SqlScope.Sql

namespace Parser

/-- Binding strengths of operators, from loosest to tightest. -/
inductive Level where
  | or | and | unaryNot | isTest | pgOther | like | eq | between | pipe | caret | ampersand
  | xor | plusMinus | mulDivMod | atTz | doubleColon | period

/-- The numeric binding strength of a level in a dialect. -/
def Level.value (d : Dialect) (l : Level) : Nat :=
  if d == .postgres then
    match l with
    | .period => 200 | .doubleColon => 140 | .atTz => 110 | .mulDivMod => 90
    | .plusMinus => 80 | .xor => 75 | .ampersand => 70 | .caret => 100 | .pipe => 70
    | .between => 60 | .eq => 50 | .like => 60 | .isTest => 40 | .pgOther => 70
    | .unaryNot => 30 | .and => 20 | .or => 10
  else
    match l with
    | .period => 100 | .doubleColon => 50 | .atTz => 41 | .mulDivMod => 40
    | .plusMinus => 30 | .xor => 24 | .ampersand => 23 | .caret => 22 | .pipe => 21
    | .between => 20 | .eq => 20 | .like => 19 | .isTest => 17 | .pgOther => 16
    | .unaryNot => 15 | .and => 10 | .or => 5

def prec (l : Level) : Parser Nat := return l.value (← dialect)

/-- Symbols of the JSON and containment operators. -/
def pgOtherSymbols : List String :=
  ["->", "->>", "#>", "#>>", "@>", "<@", "#-", "@?", "@@", "?", "?&", "?|"]

def comparisonSymbols : List String :=
  ["=", "<", "<=", "<>", "!=", ">", ">=", "==", ":=", "~", "~*", "!~", "!~*", "~~", "~~*",
   "!~~", "!~~*", "<=>"]

/-- Keywords that start a pattern test. -/
def likeKeywords : List String := ["LIKE", "ILIKE", "RLIKE", "REGEXP", "MATCH", "SIMILAR", "MEMBER"]

/-- The infix operators on geometric values. -/
def geometricSymbols : List String :=
  ["##", "<->", "&<", "&>", "&<|", "|&>", "<<|", "|>>", "<^", ">^", "?#", "?-", "?-|", "?||",
   "~=", "@"]

/-- How tightly the next token binds as an infix operator; 0 when it is none. -/
def nextPrecedence : Parser Nat := do
  let d ← dialect
  let t ← peekToken
  let v := Level.value d
  if d == .postgres then
    match t with
    | .sym "[" => return 130
    | .sym s =>
      if (pgOtherSymbols ++ ["!", "&&", "^@", "||", "#", ">>", "<<"]).contains s then return 70
      if geometricSymbols.contains s then return v .pipe
    | .customOp _ => return 70
    | .word _ none => if t.isKeyword "COLLATE" then return 120
    | _ => pure ()
  match t with
  | .word _ none =>
    match t.keyword with
    | some "OR" => return v .or
    | some "AND" => return v .and
    | some "XOR" => return v .xor
    | some "AT" =>
      let t1 ← peekAt 1
      let t2 ← peekAt 2
      return if t1.token.isKeyword "TIME" && t2.token.isKeyword "ZONE" then v .atTz else 0
    | some "NOT" =>
      let t1 := (← peekAt 1).token
      if t1.isKeyword "IN" || t1.isKeyword "BETWEEN" then return v .between
      if likeKeywords.any t1.isKeyword then return v .like
      if t1.isKeyword "NULL" && !(← read).columnDefinition then return v .isTest
      return 0
    | some "IS" => return v .isTest
    | some "NOTNULL" => return if d.hasNotNullOperator then v .isTest else 0
    | some "IN" | some "BETWEEN" | some "OVERLAPS" | some "OPERATOR" => return v .between
    | some "DIV" => return v .mulDivMod
    | some kw => return if likeKeywords.contains kw then v .like else 0
    | none => return 0
  | .sym s =>
    if s == "." then return v .period
    if comparisonSymbols.contains s then return v .eq
    if s == "|" || s == "&&" then return v .pipe
    if s == "^" || s == "#" || s == ">>" || s == "<<" then return v .caret
    if s == "&" then return v .ampersand
    if s == "+" || s == "-" then return v .plusMinus
    if s == "*" || s == "/" || s == "//" || s == "%" || s == "||" then return v .mulDivMod
    if s == "::" || s == "!" || s == "[" || s == "^@" then return v .doubleColon
    if pgOtherSymbols.contains s then return v .pgOther
    return 0
  | _ => return 0

/-- The binary operator a consumed token stands for, if any. -/
def binaryOperator (d : Dialect) (t : Token) : Option BinOp :=
  match t with
  | .sym s =>
    match s with
    | "=" | "==" => some .eq
    | "<>" | "!=" => some .neq
    | ">" => some .gt | ">=" => some .ge | "<" => some .lt | "<=" => some .le
    | "+" => some .plus | "-" => some .minus | "*" => some .mul | "/" => some .div
    | "%" => some .modulo | "||" => some .concat
    | "<=>" | ":=" | "|" | "^" | "&" => some (.other s)
    | "//" => if d == .generic then some (.other s) else none
    | "<<" | ">>" | "&&" | "^@" =>
      if d == .postgres || d == .generic then some (.other s) else none
    | "#" => if d == .postgres then some (.other s) else none
    | _ =>
      if d.hasGeometry && geometricSymbols.contains s then some (.other s) else
      if ["~", "~*", "!~", "!~*", "~~", "~~*", "!~~", "!~~*"].contains s ||
          pgOtherSymbols.contains s then some (.other s) else none
  | .customOp s => some (.other s)
  | .word _ none =>
    match t.keyword with
    | some "AND" => some .and
    | some "OR" => some .or
    | some "XOR" => some .xor
    | some "OVERLAPS" => some (.other "OVERLAPS")
    | some "DIV" => some (.other "DIV")
    | _ => none
  | _ => none

/-- Keywords that cannot be an alias of a table without `AS`. -/
def reservedForTableAlias : List String :=
  ["WITH", "EXPLAIN", "ANALYZE", "SELECT", "WHERE", "GROUP", "SORT", "HAVING", "ORDER", "PIVOT",
   "UNPIVOT", "TOP", "LATERAL", "VIEW", "LIMIT", "OFFSET", "FETCH", "UNION", "EXCEPT",
   "INTERSECT", "MINUS", "ON", "JOIN", "INNER", "CROSS", "FULL", "LEFT", "RIGHT", "NATURAL",
   "USING", "CLUSTER", "DISTRIBUTE", "GLOBAL", "ANTI", "SEMI", "RETURNING", "ASOF",
   "MATCH_CONDITION", "OUTER", "SET", "QUALIFY", "WINDOW", "END", "FOR", "PARTITION",
   "PREWHERE", "SETTINGS", "FORMAT", "START", "CONNECT", "MATCH_RECOGNIZE", "SAMPLE",
   "TABLESAMPLE", "FROM", "OPEN", "STRAIGHT_JOIN"]

/-- Keywords that cannot be an alias of a projected expression without `AS`. -/
def reservedForColumnAlias : List String :=
  ["WITH", "EXPLAIN", "ANALYZE", "SELECT", "WHERE", "GROUP", "SORT", "HAVING", "ORDER", "TOP",
   "LATERAL", "VIEW", "LIMIT", "OFFSET", "FETCH", "UNION", "EXCEPT", "EXCLUDE", "INTERSECT",
   "MINUS", "CLUSTER", "DISTRIBUTE", "RETURNING", "VALUE", "FROM", "INTO", "END"]

/-- An alias after an optional `AS`: any word after `AS`, otherwise a word that is
not one of the `reserved` keywords; a quoted string is always an alias. -/
def parseOptionalAlias (reserved : List String) : Parser (Option Ident) := do
  let afterAs ← parseKeyword "AS"
  let t ← next
  match t.token with
  | .word v q =>
    if afterAs || !(match t.token.keyword with | some kw => reserved.contains kw | none => false) then
      return some ⟨v, q⟩
    back
    return none
  | .singleQuoted s => return some ⟨s, some '\''⟩
  | .doubleQuoted s => return some ⟨s, some '"'⟩
  | _ =>
    if afterAs then expected "an identifier after AS" t
    back
    return none

/-- `(a, b TYPE, ...)` after a table alias, if present. -/
def parseAliasColumns : Parser (List AliasColumn) := do
  if !(← consumeSym "(") then return []
  let cols ← commaSeparated do
    let name ← parseIdentifier
    let ty ← maybeParse parseDataType
    return ({ name, type := ty.map (·.type) } : AliasColumn)
  expectSym ")"
  return cols

/-- A table alias `[AS] name [(columns)]`, if present. MySQL also keeps the words
that start an index hint from being an alias. -/
def maybeTableAlias : Parser (Option TableAlias) := do
  let explicit ← peekKeyword "AS"
  let reserved :=
    if (← dialect) == .mysql then reservedForTableAlias ++ ["USE", "IGNORE", "FORCE"]
    else reservedForTableAlias
  match ← parseOptionalAlias reserved with
  | some name => return some { explicit, name, columns := ← parseAliasColumns }
  | none => return none

/-- Whether a subquery starts here (`SELECT` or `WITH` comes next). -/
def peekSubquery : Parser Bool := do
  let t ← peekToken
  return t.isKeyword "SELECT" || t.isKeyword "WITH"

/-- `TABLE name` as a query body: reads exactly three tokens, a schema-qualified
name when the second is a period. -/
def parseAsTable : Parser SetExpr := do
  let t1 ← next
  let t2 ← next
  let t3 ← next
  if t2.token == .sym "." then
    match t1.token, t3.token with
    | .word s _, .word tb _ => return .table ⟨[⟨s, none⟩, ⟨tb, none⟩]⟩
    | .word _ _, _ => expected "Table name" t3
    | _, _ => expected "Schema name" t1
  else
    match t1.token with
    | .word tb _ => return .table ⟨[⟨tb, none⟩]⟩
    | _ => expected "Table name" t1

/-- Keywords that name a unit of time after an interval value. -/
def temporalUnits : List String :=
  ["YEAR", "YEARS", "MONTH", "MONTHS", "WEEK", "WEEKS", "DAY", "DAYS", "DATE", "DATETIME",
   "HOUR", "HOURS", "MINUTE", "MINUTES", "SECOND", "SECONDS", "CENTURY", "DECADE", "DOW",
   "DOY", "EPOCH", "ISODOW", "ISOYEAR", "ISOWEEK", "JULIAN", "MICROSECOND", "MICROSECONDS",
   "MILLENIUM", "MILLENNIUM", "MILLISECOND", "MILLISECONDS", "NANOSECOND", "NANOSECONDS",
   "QUARTER", "TIMEZONE", "TIMEZONE_HOUR", "TIMEZONE_MINUTE"]

/-- A date or time field name, as `EXTRACT` and intervals take it. -/
def parseDateTimeField : Parser String := do
  let t ← next
  match t.token with
  | .word v none =>
    let kw := keywordText v
    if temporalUnits.contains kw || kw == "TIME" || kw == "NANOSECOND" then return kw
    let d ← dialect
    if d == .generic || d == .postgres then back; return (← parseIdentifier).render
    expected "date/time field" t
  | .word _ (some _) =>
    let d ← dialect
    if d == .generic || d == .postgres then back; return (← parseIdentifier).render
    expected "date/time field" t
  | .singleQuoted _ =>
    if (← dialect) == .generic then back; return (← parseIdentifier).render
    expected "date/time field" t
  | _ => expected "date/time field" t

/-- `(n)` after an interval field, if present. -/
def intervalPrecision : Parser String := do
  if ← consumeSym "(" then
    let p ← parseLiteralUint
    expectSym ")"
    return " (" ++ toString p ++ ")"
  return ""

/-- The qualifier after the value of an interval: a field with its precision, and
`TO` a last field, as in `DAY (2) TO SECOND (3)`; `SECOND` instead takes both
precisions at once, `SECOND (2, 3)`. Where the dialect asks for a qualifier, its
absence is an error. -/
def parseIntervalQualifier : Parser (Option String) := do
  let d ← dialect
  if temporalUnits.any (← peekToken).isKeyword then
    let f ← parseDateTimeField
    if f == "SECOND" then
      if ← consumeSym "(" then
        let p ← parseLiteralUint
        if ← consumeSym "," then
          let s ← parseLiteralUint
          expectSym ")"
          return some ("SECOND (" ++ toString p ++ ", " ++ toString s ++ ")")
        expectSym ")"
        return some ("SECOND (" ++ toString p ++ ")")
      return some "SECOND"
    let lead := f ++ (← intervalPrecision)
    if ← parseKeyword "TO" then
      let last ← parseDateTimeField
      let frac ← if last == "SECOND" then intervalPrecision else pure ""
      return some (lead ++ " TO " ++ last ++ frac)
    return some lead
  else if d.requiresIntervalUnit then failAt "INTERVAL requires a unit after the literal value" (← peek)
  else return none

/-- The table of `SELECT ... INTO [TEMPORARY] [UNLOGGED] [TABLE] name`, after `INTO`. -/
def parseSelectInto : Parser SelectInto := do
  let temporary := (← parseOneOfKeywords ["TEMP", "TEMPORARY"]).isSome
  let unlogged ← parseKeyword "UNLOGGED"
  let tableKeyword ← parseKeyword "TABLE"
  return { temporary, unlogged, tableKeyword, name := ← parseObjectName }

/-- Index hints after a table: any number of `{USE | IGNORE | FORCE} {INDEX | KEY}
[FOR {JOIN | ORDER BY | GROUP BY}] (names)`. -/
def parseIndexHints : Parser (List IndexHint) :=
  iterate (fun acc => do
    let some kind ← parseOneOfKeywords ["USE", "IGNORE", "FORCE"] | return none
    let keyword ← match ← parseOneOfKeywords ["INDEX", "KEY"] with
      | some k => pure k
      | none => expected "expected to match INDEX/KEY keyword" (← peek)
    let forClause ←
      if ← parseKeyword "FOR" then
        if ← parseKeyword "JOIN" then pure (some "JOIN")
        else if ← parseKeywords ["ORDER", "BY"] then pure (some "ORDER BY")
        else if ← parseKeywords ["GROUP", "BY"] then pure (some "GROUP BY")
        else expected "expected to match FOR/ORDER BY/GROUP BY table hint in for clause" (← peek)
      else pure none
    expectSym "("
    let names ← if ← peekSym ")" then pure [] else commaSeparated parseIdentifier
    expectSym ")"
    return some (acc ++ [IndexHint.mk kind keyword forClause names])) []

/-- `IGNORE NULLS` or `RESPECT NULLS`, if present. -/
def parseNullTreatment : Parser (Option NullTreatment) := do
  match ← parseOneOfKeywords ["RESPECT", "IGNORE"] with
  | some kw =>
    expectKeyword "NULLS"
    return some (if kw == "IGNORE" then .ignore else .respect)
  | none => return none

/-- `FETCH {FIRST | NEXT} [n [PERCENT]] {ROW | ROWS} {ONLY | WITH TIES}` after its
first keyword; the quantity is a literal. -/
def parseFetch : Parser Fetch := do
  let _ ← expectOneOfKeywords ["FIRST", "NEXT"]
  let (quantity, percent) ←
    if (← parseOneOfKeywords ["ROW", "ROWS"]).isSome then pure (none, false)
    else
      let q ← parseValue
      let p ← parseKeyword "PERCENT"
      let _ ← expectOneOfKeywords ["ROW", "ROWS"]
      pure (some q, p)
  let withTies ←
    if ← parseKeyword "ONLY" then pure false
    else if ← parseKeywords ["WITH", "TIES"] then pure true
    else expected "one of ONLY or WITH TIES" (← peek)
  return { quantity, percent, withTies }

/-- An optional `('name')` after `RAW` or `PATH` of `FOR XML`, or after `ROOT`, as
printed. -/
def parseElementName : Parser String := do
  expectSym "("
  let s ← parseLiteralString
  expectSym ")"
  return "('" ++ s ++ "')"

/-- The rest of `FOR XML mode [, option ...]`, as printed: the mode, then `BINARY
BASE64`, `TYPE`, `ROOT(...)` and `ELEMENTS` in that order. -/
def parseForXml : Parser String := do
  let mode ←
    if ← parseKeyword "RAW" then
      pure ("RAW" ++ (← if ← peekSym "(" then parseElementName else pure ""))
    else if ← parseKeyword "AUTO" then pure "AUTO"
    else if ← parseKeyword "EXPLICIT" then pure "EXPLICIT"
    else if ← parseKeyword "PATH" then
      pure ("PATH" ++ (← if ← peekSym "(" then parseElementName else pure ""))
    else failWith "Expected FOR XML [RAW | AUTO | EXPLICIT | PATH ]"
  let (elements, base64, root, isType) ← iterate (fun (acc : Bool × Bool × Option String × Bool) => do
    if !(← consumeSym ",") then return none
    let (elements, base64, root, isType) := acc
    if ← parseKeyword "ELEMENTS" then return some (true, base64, root, isType)
    if ← parseKeyword "BINARY" then
      expectKeyword "BASE64"
      return some (elements, true, root, isType)
    if ← parseKeyword "ROOT" then return some (elements, base64, some (← parseElementName), isType)
    if ← parseKeyword "TYPE" then return some (elements, base64, root, true)
    return some acc) (false, false, none, false)
  return "FOR XML " ++ mode ++ (if base64 then ", BINARY BASE64" else "") ++ (if isType then ", TYPE" else "") ++
    (match root with | some r => ", ROOT" ++ r | none => "") ++ (if elements then ", ELEMENTS" else "")

/-- The rest of `FOR JSON AUTO | PATH [, option ...]`, as printed. -/
def parseForJson : Parser String := do
  let mode ←
    if ← parseKeyword "AUTO" then pure "AUTO"
    else if ← parseKeyword "PATH" then pure "PATH"
    else failWith "Expected FOR JSON [AUTO | PATH ]"
  let (root, nulls, unwrapped) ← iterate (fun (acc : Option String × Bool × Bool) => do
    if !(← consumeSym ",") then return none
    let (root, nulls, unwrapped) := acc
    if ← parseKeyword "ROOT" then
      if ← peekSym "(" then return some (some (← parseElementName), nulls, unwrapped)
      return some acc
    if ← parseKeyword "INCLUDE_NULL_VALUES" then return some (root, true, unwrapped)
    if ← parseKeyword "WITHOUT_ARRAY_WRAPPER" then return some (root, nulls, true)
    return some acc) (none, false, false)
  return "FOR JSON " ++ mode ++ (match root with | some r => ", ROOT" ++ r | none => "") ++
    (if nulls then ", INCLUDE_NULL_VALUES" else "") ++ (if unwrapped then ", WITHOUT_ARRAY_WRAPPER" else "")

/-- After `FOR`: `XML ...`, `JSON ...` or `BROWSE`, as printed, or `none` when a row
lock follows instead. -/
def parseForClause : Parser (Option String) := do
  if ← parseKeyword "XML" then return some (← parseForXml)
  if ← parseKeyword "JSON" then return some (← parseForJson)
  if ← parseKeyword "BROWSE" then return some "FOR BROWSE"
  return none

/-- What a `JSON_TABLE` column yields on an empty or failed match, if given:
`NULL`, `ERROR` or `DEFAULT value`, followed by `ON`. -/
def parseJsonFallback : Parser (Option String) := do
  let h ←
    if ← parseKeyword "NULL" then pure "NULL"
    else if ← parseKeyword "ERROR" then pure "ERROR"
    else if ← parseKeyword "DEFAULT" then pure ("DEFAULT " ++ (← parseValue).render)
    else return none
  expectKeyword "ON"
  return some h

/-- One column of `JSON_TABLE(... COLUMNS (...))` as its canonical text: a nested
path with columns of its own, `name FOR ORDINALITY`, or
`name type [EXISTS] PATH path` with what it yields `ON EMPTY` and `ON ERROR`. -/
def parseJsonTableColumn : Nat → Parser String
  | 0 => throw .recursion
  | n + 1 => do
    if ← parseKeyword "NESTED" then
      let _ ← parseKeyword "PATH"
      let path ← parseValue
      expectKeyword "COLUMNS"
      expectSym "("
      let cols ← commaSeparated (parseJsonTableColumn n)
      expectSym ")"
      return "NESTED PATH " ++ path.render ++ " COLUMNS (" ++ commaList cols ++ ")"
    let name ← parseIdentifier
    if ← parseKeyword "FOR" then
      expectKeyword "ORDINALITY"
      return name.render ++ " FOR ORDINALITY"
    let ty ← parseDataType
    let exists_ ← parseKeyword "EXISTS"
    expectKeyword "PATH"
    let path ← parseValue
    let (onEmpty, onError) ← iterate (fun (acc : Option String × Option String) => do
      match ← parseJsonFallback with
      | none => return none
      | some h =>
        if ← parseKeyword "EMPTY" then return some (some h, acc.2)
        expectKeyword "ERROR"
        return some (acc.1, some h)) (none, none)
    return name.render ++ " " ++ ty.type.text ++ (if exists_ then " EXISTS" else "") ++
      " PATH " ++ path.render ++
      (match onEmpty with | some h => " " ++ h ++ " ON EMPTY" | none => "") ++
      (match onError with | some h => " " ++ h ++ " ON ERROR" | none => "")

/-- One column of `OPENJSON(...) WITH (...)` as its canonical text:
`name type ['path'] [AS JSON]`. -/
def parseOpenJsonColumn : Parser String := do
  let name ← parseIdentifier
  let ty ← parseDataType
  let path ← match ← peekToken with
    | .singleQuoted p => advance; pure (" '" ++ escapeQuoted '\'' p ++ "'")
    | _ => pure ""
  let asJson ← parseKeyword "AS"
  if asJson then expectKeyword "JSON"
  return name.render ++ " " ++ ty.type.text ++ path ++ (if asJson then " AS JSON" else "")

/-- A parenthesised list of column names; absent is the empty list. -/
def parseColumnList (allowEmpty : Bool) : Parser (List Ident) := do
  if !(← consumeSym "(") then return []
  if allowEmpty && (← peekSym ")") then
    advance
    return []
  let cols ← commaSeparated parseIdentifier
  expectSym ")"
  return cols

/-- A parenthesised list of column names that must be present. -/
def parseRequiredColumnList : Parser (List Ident) := do
  if !(← peekSym "(") then expected "a list of columns in parentheses" (← peek)
  parseColumnList false

/-- `OR REPLACE` and the other conflict clauses of `INSERT` and `UPDATE`. -/
def parseConflictClause : Parser (Option String) := do
  for c in ["REPLACE", "ROLLBACK", "ABORT", "FAIL", "IGNORE"] do
    if ← parseKeywords ["OR", c] then return some c
  if ← parseKeyword "REPLACE" then return some "REPLACE"
  return none

mutual

/-- A query: optional `WITH`, a body, then `ORDER BY`, limits, `FETCH` and row
locks. A data-modifying statement may stand in place of the body, and then nothing
follows it. -/
def parseQuery (fuel : Nat) : Parser Query :=
  match fuel with
  | 0 => throw .recursion
  | n + 1 => nested do
    let (recursive, ctes) ←
      if ← parseKeyword "WITH" then
        let r ← parseKeyword "RECURSIVE"
        let cs ← commaSeparated (parseCte n)
        pure (r, cs)
      else pure (false, [])
    let dml ← match (← peekToken).keyword with
      | some "INSERT" => advance; some <$> parseInsert n false
      | some "UPDATE" => advance; some <$> parseUpdate n
      | some "DELETE" => advance; some <$> parseDelete n
      | some "MERGE" => advance; some <$> parseMerge n
      | _ => pure none
    if let some stmt := dml then
      return .mk recursive ctes (.dml stmt.render) [] .none none [] none
    let body ← parseQueryBody n 0
    let orderBy ←
      if ← parseKeywords ["ORDER", "BY"] then commaSeparated (parseOrderByExpr n) else pure []
    let limit ← parseLimitClause n
    let fetch ← if ← parseKeyword "FETCH" then some <$> parseFetch else pure none
    let (locks, forClause) ← iterate (fun (acc : List LockClause × Option String) => do
      if acc.2.isSome then return none
      if ← parseKeyword "FOR" then
        if let some c ← parseForClause then return some (acc.1, some c)
        let kind ← expectOneOfKeywords ["UPDATE", "SHARE"]
        let of ← if ← parseKeyword "OF" then some <$> parseObjectName else pure none
        let wait ← do
          if ← parseKeyword "NOWAIT" then pure (some "NOWAIT")
          else if ← parseKeywords ["SKIP", "LOCKED"] then pure (some "SKIP LOCKED") else pure none
        return some (acc.1 ++ [({ share := kind == "SHARE", of, wait } : LockClause)], none)
      else return none) ([], none)
    return .mk recursive ctes body orderBy limit fetch locks forClause

/-- One common table expression `name [(columns)] AS [[NOT] MATERIALIZED] (query)`. -/
def parseCte (fuel : Nat) : Parser Cte :=
  match fuel with
  | 0 => throw .recursion
  | n + 1 => do
    let name ← parseIdentifier
    let columns ← if ← peekKeyword "AS" then pure [] else parseAliasColumns
    expectKeyword "AS"
    let mat ← do
      if (← dialect) == .postgres then
        if ← parseKeyword "MATERIALIZED" then pure (some true)
        else if ← parseKeywords ["NOT", "MATERIALIZED"] then pure (some false) else pure none
      else pure none
    expectSym "("
    let q ← parseQuery n
    expectSym ")"
    return .mk { explicit := false, name, columns } mat q

/-- A query body: a `SELECT`, a parenthesised query, `VALUES` or `TABLE`, followed
by set operations that bind tighter than `minPrec`. -/
def parseQueryBody (fuel : Nat) (minPrec : Nat) : Parser SetExpr :=
  match fuel with
  | 0 => throw .recursion
  | n + 1 => do
    let first ← do
      if ← peekKeyword "SELECT" then SetExpr.select <$> parseSelect n
      else if ← consumeSym "(" then
        let q ← parseQuery n
        expectSym ")"
        pure (SetExpr.query q)
      else if ← parseKeyword "VALUES" then parseValues n false
      else if ← parseKeyword "VALUE" then parseValues n true
      else if ← parseKeyword "TABLE" then parseAsTable
      else expected "SELECT, VALUES, or a subquery in the query body" (← peek)
    iterate (fun left => do
      let t ← peekToken
      let op? : Option (SetOperator × Nat) :=
        if t.isKeyword "UNION" then some (.union, 10)
        else if t.isKeyword "EXCEPT" then some (.except, 10)
        else if t.isKeyword "MINUS" then some (.minus, 10)
        else if t.isKeyword "INTERSECT" then some (.intersect, 20)
        else none
      match op? with
      | none => return none
      | some (op, p) =>
        if minPrec ≥ p then return none
        advance
        let quant ← do
          if ← parseKeywords ["DISTINCT", "BY", "NAME"] then pure SetQuantifier.distinctByName
          else if ← parseKeywords ["BY", "NAME"] then pure SetQuantifier.byName
          else if ← parseKeyword "ALL" then
            if ← parseKeywords ["BY", "NAME"] then pure SetQuantifier.allByName else pure SetQuantifier.all
          else if ← parseKeyword "DISTINCT" then pure SetQuantifier.distinct
          else pure SetQuantifier.none
        let right ← parseQueryBody n p
        return some (.setOp op quant left right)) first

/-- The rows of `VALUES (...), (...)`, each optionally written `ROW(...)`. -/
def parseValues (fuel : Nat) (valueKeyword : Bool) : Parser SetExpr :=
  match fuel with
  | 0 => throw .recursion
  | n + 1 => do
    let allowEmpty := (← dialect) == .mysql
    let rows ← commaSeparated do
      let explicitRow ← parseKeyword "ROW"
      expectSym "("
      if allowEmpty && (← peekSym ")") then
        advance
        return (explicitRow, Row.mk [])
      let items ← commaSeparated (parseExpr n)
      expectSym ")"
      return (explicitRow, Row.mk items)
    return .values (rows.any (·.1)) valueKeyword (rows.map (·.2))

/-- A `SELECT` block. -/
def parseSelect (fuel : Nat) : Parser Select :=
  match fuel with
  | 0 => throw .recursion
  | n + 1 => do
    expectKeyword "SELECT"
    let d ← dialect
    let dist ← do
      let allTok ← peek
      let all ← parseKeyword "ALL"
      let distinct ← parseKeyword "DISTINCT"
      if !distinct then pure Distinct.none
      else if all then failAt "Cannot specify both ALL and DISTINCT" allTok
      else if ← parseKeyword "ON" then
        expectSym "("
        let es ← if ← peekSym ")" then pure [] else commaSeparated (parseExpr n)
        expectSym ")"
        pure (Distinct.on es)
      else pure Distinct.distinct
    let top ← if ← parseKeyword "TOP" then some <$> parseTop n else pure none
    let projection ←
      if d == .postgres && (← peekKeyword "FROM") then pure []
      else commaSeparated (parseSelectItem n)
    let into ← if ← parseKeyword "INTO" then some <$> parseSelectInto else pure none
    let from_ ←
      if ← parseKeyword "FROM" then commaSeparated (parseTableAndJoins n) else pure []
    let lateralViews ← iterate (fun (acc : List String) => do
      if !(← parseKeywords ["LATERAL", "VIEW"]) then return none
      let outer ← parseKeyword "OUTER"
      let e ← parseExpr n
      let name ← parseObjectName
      let aliases ← commaSeparated
        (parseOptionalAlias ["WHERE", "GROUP", "CLUSTER", "HAVING", "LATERAL"])
      let aliases := aliases.filterMap id
      return some (acc ++ ["LATERAL VIEW" ++ (if outer then " OUTER " else " ") ++ e.render ++
        " " ++ name.render ++
        (if aliases.isEmpty then "" else " AS " ++ commaList (aliases.map Ident.render))])) []
    let prewhere ←
      if ← parseWhen (d == .generic) (parseKeyword "PREWHERE") then
        pure ["PREWHERE " ++ (← parseExpr n).render]
      else pure []
    let selection ← if ← parseKeyword "WHERE" then some <$> parseExpr n else pure none
    let groupBy ← if ← parseKeywords ["GROUP", "BY"] then parseGroupBy n else pure (.keys [] [])
    let exprsAfter (words : List String) : Parser (List String) := do
      if ← parseKeywords words then
        let es ← commaSeparated (parseExpr n)
        pure [" ".intercalate words ++ " " ++ commaList (es.map Expr.render)]
      else pure []
    let clusterBy ← exprsAfter ["CLUSTER", "BY"]
    let distributeBy ← exprsAfter ["DISTRIBUTE", "BY"]
    let sortBy ←
      if ← parseKeywords ["SORT", "BY"] then
        let keys ← commaSeparated (parseOrderByExpr n)
        pure ["SORT BY " ++ commaList (keys.map OrderByExpr.render)]
      else pure []
    let having ← if ← parseKeyword "HAVING" then some <$> parseExpr n else pure none
    let (windows, qualify, windowFirst) ←
      if ← parseKeyword "WINDOW" then
        let ws ← commaSeparated (parseNamedWindow n)
        if ← parseKeyword "QUALIFY" then pure (ws, some (← parseExpr n), true)
        else pure (ws, none, true)
      else if ← parseKeyword "QUALIFY" then
        let q ← parseExpr n
        if ← parseKeyword "WINDOW" then pure (← commaSeparated (parseNamedWindow n), some q, false)
        else pure ([], some q, false)
      else pure ([], none, false)
    return .mk dist top false projection from_ selection groupBy having windows qualify windowFirst into
      (lateralViews ++ prewhere) (clusterBy ++ distributeBy ++ sortBy)

/-- The rest of a `GROUP BY`: `ALL` or the keys, then `WITH ROLLUP`, `WITH CUBE` or
`WITH TOTALS` where the dialect has them, then a trailing `GROUPING SETS (...)`. -/
def parseGroupBy (fuel : Nat) : Parser GroupBy :=
  match fuel with
  | 0 => throw .recursion
  | n + 1 => do
    let d ← dialect
    let keys ←
      if ← parseKeyword "ALL" then pure none else some <$> commaSeparated (parseGroupByKey n)
    let modifiers ←
      if d == .generic then
        iterate (fun (acc : List GroupByModifier) => do
          if !(← parseKeyword "WITH") then return none
          let m ← match ← expectOneOfKeywords ["ROLLUP", "CUBE", "TOTALS"] with
            | "ROLLUP" => pure GroupByModifier.rollup
            | "CUBE" => pure GroupByModifier.cube
            | _ => pure GroupByModifier.totals
          return some (acc ++ [m])) []
      else pure []
    let modifiers ←
      if ← parseKeywords ["GROUPING", "SETS"] then
        expectSym "("
        let sets ← commaSeparated do
          if ← peekSym "(" then parseGroupingSet n true else pure (GroupingSet.mk [← parseExpr n])
        expectSym ")"
        pure (modifiers ++ [.groupingSets (.groupingSets sets)])
      else pure modifiers
    return match keys with
      | none => .all modifiers
      | some items => .keys items modifiers

/-- One key of a `GROUP BY`; where the dialect allows it, also `GROUPING SETS`,
`CUBE`, `ROLLUP` or the empty set `()`. -/
def parseGroupByKey (fuel : Nat) : Parser Expr :=
  match fuel with
  | 0 => throw .recursion
  | n + 1 => do
    if !(← dialect).hasGroupByExpr then return ← parseExpr n
    if ← parseKeywords ["GROUPING", "SETS"] then
      expectSym "("
      let sets ← commaSeparated (parseGroupingSet n false)
      expectSym ")"
      return .groupingSets sets
    if ← parseKeyword "CUBE" then
      expectSym "("
      let sets ← commaSeparated (parseGroupingSet n true)
      expectSym ")"
      return .cube sets
    if ← parseKeyword "ROLLUP" then
      expectSym "("
      let sets ← commaSeparated (parseGroupingSet n true)
      expectSym ")"
      return .rollup sets
    if (← peekSym "(") && (← peekAt 1).token == .sym ")" then
      advance
      advance
      return .tuple []
    parseExpr n

/-- A set of a `GROUPING SETS`, `CUBE` or `ROLLUP`: a parenthesised, possibly empty
list, or when `lift` is set also a single expression without parentheses. -/
def parseGroupingSet (fuel : Nat) (lift : Bool) : Parser GroupingSet :=
  match fuel with
  | 0 => throw .recursion
  | n + 1 => do
    if lift && !(← peekSym "(") then return .mk [← parseExpr n]
    expectSym "("
    if ← consumeSym ")" then return .mk []
    let items ← commaSeparated (parseExpr n)
    expectSym ")"
    return .mk items

/-- One window of a `WINDOW` clause: `name AS (spec)`, or, where the dialect allows
it, `name AS other`. -/
def parseNamedWindow (fuel : Nat) : Parser NamedWindow :=
  match fuel with
  | 0 => throw .recursion
  | n + 1 => do
    let name ← parseIdentifier
    expectKeyword "AS"
    if ← consumeSym "(" then return .mk name (← parseWindowSpec n)
    if (← dialect) == .generic then return .mk name (.named (← parseIdentifier))
    expected "(" (← peek)

/-- `TOP n`, `TOP (expr)`, with `PERCENT` and `WITH TIES`. -/
def parseTop (fuel : Nat) : Parser Top :=
  match fuel with
  | 0 => throw .recursion
  | n + 1 => do
    let (q, parens) ←
      if ← consumeSym "(" then
        let e ← parseExpr n
        expectSym ")"
        pure (e, true)
      else
        let t ← next
        match t.token with
        | .number s _ => pure (Expr.value (.number (toString (← parseU64 s t))), false)
        | _ => expected "literal int" t
    let percent ← parseKeyword "PERCENT"
    let ties ← parseKeywords ["WITH", "TIES"]
    return .mk (some q) parens percent ties

/-- The options the generic dialect allows after `*` or `name.*`, each as its
canonical text, in their fixed order: `ILIKE 'pattern'`, then (without `ILIKE`)
`EXCLUDE`, then `EXCEPT`, `REPLACE` and `RENAME`. -/
def parseWildcardOptions (fuel : Nat) : Parser (List String) :=
  match fuel with
  | 0 => throw .recursion
  | n + 1 => do
  if (← dialect) != .generic then return []
  let idents : Parser String := do
    let cs ← commaSeparated parseIdentifier
    expectSym ")"
    return "(" ++ commaList (cs.map Ident.render) ++ ")"
  let identWithAlias : Parser String := do
    let i ← parseIdentifier
    expectKeyword "AS"
    return i.render ++ " AS " ++ (← parseIdentifier).render
  let ilike ←
    if ← parseKeyword "ILIKE" then
      let t ← next
      match t.token with
      | .singleQuoted s => pure (some ("ILIKE '" ++ escapeQuoted '\'' s ++ "'"))
      | _ => expected "ilike pattern" t
    else pure none
  let exclude ←
    if ← parseWhen ilike.isNone (parseKeyword "EXCLUDE") then
      if ← consumeSym "(" then pure (some ("EXCLUDE " ++ (← idents)))
      else pure (some ("EXCLUDE " ++ (← parseIdentifier).render))
    else pure none
  let exceptPart ←
    if ← parseKeyword "EXCEPT" then
      if ← consumeSym "(" then pure (some ("EXCEPT " ++ (← idents)))
      else pure (some ("EXCEPT (" ++ (← parseIdentifier).render ++ ")"))
    else pure none
  let replacePart ←
    if ← parseKeyword "REPLACE" then
      let t ← next
      if t.token != .sym "(" then expected "( after REPLACE but" t
      let items ← commaSeparated do
        let e ← parseExpr n
        let asKeyword ← parseKeyword "AS"
        let name ← parseIdentifier
        return e.render ++ (if asKeyword then " AS " else " ") ++ name.render
      expectSym ")"
      pure (some ("REPLACE (" ++ commaList items ++ ")"))
    else pure none
  let rename ←
    if ← parseKeyword "RENAME" then
      if ← consumeSym "(" then
        let items ← commaSeparated identWithAlias
        expectSym ")"
        pure (some ("RENAME (" ++ commaList items ++ ")"))
      else pure (some ("RENAME " ++ (← identWithAlias)))
    else pure none
  return [ilike, exclude, exceptPart, replacePart, rename].filterMap id

/-- One item of a projection, with its alias. -/
def parseSelectItem (fuel : Nat) : Parser SelectItem :=
  match fuel with
  | 0 => throw .recursion
  | n + 1 => do
    let e ← parseWildcardExpr n
    match e with
    | .wildcard | .qualifiedWildcard _ =>
      let options ← parseWildcardOptions n
      return if options.isEmpty then .expr e else .wildcard e options
    | .ident i =>
      if i.quote.isNone && SqlScope.Text.lowercase i.value == "from" then
        failAt ("Expected an expression, found: " ++ i.value) (← peek)
      match ← parseOptionalAlias reservedForColumnAlias with
      | some a => return .aliased e a
      | none => return .expr e
    | .binary (.ident a) .eq r =>
      if (← dialect) == .mssql then return .aliased r a
      match ← parseOptionalAlias reservedForColumnAlias with
      | some al => return .aliased e al
      | none => return .expr e
    | _ =>
      match ← parseOptionalAlias reservedForColumnAlias with
      | some a => return .aliased e a
      | none => return .expr e

/-- An expression that may also be `*` or `name.*`. -/
def parseWildcardExpr (fuel : Nat) : Parser Expr :=
  match fuel with
  | 0 => throw .recursion
  | n + 1 => do
    let start ← get
    let t ← next
    let firstPart : Option Ident := match t.token with
      | .word v q => some ⟨v, q⟩
      | .singleQuoted s => some ⟨s, some '\''⟩
      | _ => none
    match firstPart with
    | some first =>
      if ← peekSym "." then
        let (parts, star) ← iterate (fun (acc : List Ident × Bool) => do
          if acc.2 then return none
          if !(← consumeSym ".") then return none
          let t ← next
          match t.token with
          | .word v q => return some (acc.1 ++ [⟨v, q⟩], false)
          | .singleQuoted s => return some (acc.1 ++ [⟨s, some '\''⟩], false)
          | .sym "*" => return some (acc.1, true)
          | _ => expected "an identifier or a '*' after '.'" t) ([first], false)
        if star then return .qualifiedWildcard parts
    | none =>
      if t.token == .sym "*" then return .wildcard
    set start
    parseExpr n

/-- A table source followed by its joins. -/
def parseTableAndJoins (fuel : Nat) : Parser TableWithJoins :=
  match fuel with
  | 0 => throw .recursion
  | n + 1 => do
    let rel ← parseTableFactor n
    let joins ← iterate (fun acc => do
      match ← parseJoin n with
      | some j => return some (j :: acc)
      | none => return none) []
    return .mk rel joins.reverse

/-- The next join of a join chain, if one follows. -/
def parseJoin (fuel : Nat) : Parser (Option Join) :=
  match fuel with
  | 0 => throw .recursion
  | n + 1 => do
    let _ ← parseKeyword "GLOBAL"
    if ← parseKeyword "CROSS" then
      if ← parseKeyword "JOIN" then
        let rel ← parseTableFactor n
        -- MySQL lets a cross join carry a join condition
        let c ← if (← dialect) == .mysql then parseJoinConstraint n false else pure .none
        return some (.mk rel (.join .cross c))
      else if ← parseKeyword "APPLY" then
        let rel ← parseTableFactor n
        return some (.mk rel .crossApply)
      else expected "JOIN or APPLY after CROSS" (← peek)
    if ← parseKeyword "OUTER" then
      expectKeyword "APPLY"
      let rel ← parseTableFactor n
      return some (.mk rel .outerApply)
    if ← parseKeyword "ASOF" then
      expectKeyword "JOIN"
      let rel ← parseTableFactor n
      expectKeyword "MATCH_CONDITION"
      let mc ← parenthesized (parseExpr n)
      let c ← parseJoinConstraint n false
      return some (.mk rel (.asOf mc c))
    let natural ← parseKeyword "NATURAL"
    let kw := (← peekToken).keyword
    let kind? : Option JoinKind ← match kw with
      | some "INNER" | some "JOIN" =>
        let inner ← parseKeyword "INNER"
        expectKeyword "JOIN"
        pure (some (if inner then .inner else .plain))
      | some "LEFT" | some "RIGHT" =>
        advance
        let isLeft := kw == some "LEFT"
        match ← parseOneOfKeywords ["OUTER", "SEMI", "ANTI", "JOIN"] with
        | some "OUTER" =>
          expectKeyword "JOIN"
          pure (some (if isLeft then .leftOuter else .rightOuter))
        | some "SEMI" =>
          expectKeyword "JOIN"
          pure (some (if isLeft then .leftSemi else .rightSemi))
        | some "ANTI" =>
          expectKeyword "JOIN"
          pure (some (if isLeft then .leftAnti else .rightAnti))
        | some _ => pure (some (if isLeft then .left else .right))
        | none =>
          failWith ("expected OUTER, SEMI, ANTI or JOIN after " ++
            (if isLeft then "LEFT" else "RIGHT"))
      | some "ANTI" =>
        advance
        expectKeyword "JOIN"
        pure (some .anti)
      | some "SEMI" =>
        advance
        expectKeyword "JOIN"
        pure (some .semi)
      | some "FULL" =>
        advance
        let _ ← parseKeyword "OUTER"
        expectKeyword "JOIN"
        pure (some .fullOuter)
      | some "OUTER" => expected "LEFT, RIGHT, or FULL" (← peek)
      | some "STRAIGHT_JOIN" =>
        advance
        pure (some .straight)
      | _ => if natural then expected "a join type after NATURAL" (← peek) else pure none
    match kind? with
    | none => return none
    | some kind =>
      let rel ← parseTableFactor n
      let c ← parseJoinConstraint n natural
      return some (.mk rel (.join kind c))

/-- `ON expr`, `USING (columns)`, or nothing; a natural join has no written condition. -/
def parseJoinConstraint (fuel : Nat) (natural : Bool) : Parser JoinConstraint :=
  match fuel with
  | 0 => throw .recursion
  | n + 1 => do
    if natural then return .natural
    if ← parseKeyword "ON" then return .on (← parseExpr n)
    if ← parseKeyword "USING" then
      if !(← consumeSym "(") then expected "a list of columns in parentheses" (← peek)
      let cols ← commaSeparated parseObjectName
      expectSym ")"
      return .using cols
    return .none

/-- One source of rows: a table, a derived table, a join group, a table function. -/
def parseTableFactor (fuel : Nat) : Parser TableFactor :=
  match fuel with
  | 0 => throw .recursion
  | n + 1 => do
    let d ← dialect
    if ← parseKeyword "LATERAL" then
      if ← consumeSym "(" then return ← parseDerived n true
      let name ← parseObjectName
      expectSym "("
      let args ← if ← consumeSym ")" then pure [] else do
        let xs ← commaSeparated (parseFunctionArg n)
        expectSym ")"
        pure xs
      return .function true name args (← maybeTableAlias)
    if ← parseKeyword "TABLE" then
      expectSym "("
      let e ← parseExpr n
      expectSym ")"
      return .tableFunction e (← maybeTableAlias)
    if ← consumeSym "(" then
      if let some t ← maybeParse (parseDerived n false) then return ← parsePivots n t
      let twj ← parseTableAndJoins n
      if !(match twj with | .mk _ js => js.isEmpty) then
        expectSym ")"
        return .nested twj (← maybeTableAlias)
      match twj with
      | .mk (.nested _ _) _ =>
        expectSym ")"
        return .nested twj (← maybeTableAlias)
      | .mk rel _ =>
        if d == .generic then
          expectSym ")"
          match ← maybeTableAlias with
          | none => return rel
          | some outer =>
            match rel.aliasOf with
            | some inner => failWith ("duplicate alias " ++ inner.render)
            | none => return rel.withAlias (some outer)
        else expected "joined table" (← peek)
    if d == .generic && (← peekKeyword "VALUES") && (← peekAt 1).token == .sym "(" then
      advance
      let body ← parseValues n false
      return .derived false (.mk false [] body [] .none none [] none) (← maybeTableAlias)
    if (d == .postgres || d == .generic) && (← peekKeyword "UNNEST") then
      advance
      expectSym "("
      let es ← commaSeparated (parseExpr n)
      expectSym ")"
      let ord ← parseKeywords ["WITH", "ORDINALITY"]
      return .unnest es (← maybeTableAlias) ord
    if (← peekKeyword "JSON_TABLE") && (← peekAt 1).token == .sym "(" then
      advance; advance
      let e ← parseExpr n
      expectSym ","
      let path ← parseValue
      expectKeyword "COLUMNS"
      expectSym "("
      let cols ← commaSeparated (parseJsonTableColumn n)
      expectSym ")"
      expectSym ")"
      let text := "JSON_TABLE(" ++ e.render ++ ", " ++ path.render ++ " COLUMNS(" ++
        commaList cols ++ "))"
      return .columnsFunction text (← maybeTableAlias)
    if (← peekKeyword "OPENJSON") && (← peekAt 1).token == .sym "(" then
      advance; advance
      let e ← parseExpr n
      let path ← if ← consumeSym "," then some <$> parseValue else pure none
      expectSym ")"
      let cols ←
        if ← parseKeyword "WITH" then
          expectSym "("
          let cs ← commaSeparated parseOpenJsonColumn
          expectSym ")"
          pure cs
        else pure []
      let text := "OPENJSON(" ++ e.render ++
        (match path with | some v => ", " ++ v.render | none => "") ++ ")" ++
        (if cols.isEmpty then "" else " WITH (" ++ commaList cols ++ ")")
      return .columnsFunction text (← maybeTableAlias)
    let name ← parseObjectName
    let partitions ←
      if ← parseWhen (d == .mysql || d == .generic) (parseKeyword "PARTITION") then
        expectSym "("
        let ps ← if ← peekSym ")" then pure [] else commaSeparated parseIdentifier
        expectSym ")"
        pure ps
      else pure []
    let version ←
      if ← parseWhen (d == .mssql) (parseKeywords ["FOR", "SYSTEM_TIME", "AS", "OF"]) then
        some <$> parseExpr n
      else pure none
    let args ←
      if ← consumeSym "(" then
        if ← consumeSym ")" then pure (some [])
        else
          let xs ← commaSeparated (parseFunctionArg n)
          expectSym ")"
          pure (some xs)
      else pure none
    let ord ← parseKeywords ["WITH", "ORDINALITY"]
    let aliasName ← maybeTableAlias
    let indexHints ←
      if d == .mysql then pure ((← maybeParse parseIndexHints).getD []) else pure []
    let hints ←
      if ← parseKeyword "WITH" then
        if ← consumeSym "(" then
          let hs ← commaSeparated (parseExpr n)
          expectSym ")"
          pure hs
        else
          back
          pure []
      else pure []
    let sample ← parseTableSample n
    parsePivots n (.table name partitions args aliasName indexHints hints version sample ord)

/-- The `PIVOT` and `UNPIVOT` clauses after a table or derived table, as many as
follow, each applied to the source before it. -/
def parsePivots (fuel : Nat) (t : TableFactor) : Parser TableFactor :=
  match fuel with
  | 0 => throw .recursion
  | n + 1 => do
    match ← parseOneOfKeywords ["PIVOT", "UNPIVOT"] with
    | some "PIVOT" => parsePivots n (← parsePivot n t)
    | some _ => parsePivots n (← parseUnpivot n t)
    | none => return t

/-- An expression with an optional `AS name`. -/
def parseAliasedExpr (fuel : Nat) : Parser AliasedExpr :=
  match fuel with
  | 0 => throw .recursion
  | n + 1 => do
    let e ← parseExpr n
    let name ← if ← parseKeyword "AS" then some <$> parseIdentifier else pure none
    return .mk e name

/-- The rest of `PIVOT (...)`: aggregate calls, `FOR` the pivoted columns, `IN` the
values, an optional `DEFAULT ON NULL`, then an alias. The pivoted columns bind
tighter than `IN`. -/
def parsePivot (fuel : Nat) (t : TableFactor) : Parser TableFactor :=
  match fuel with
  | 0 => throw .recursion
  | n + 1 => do
    expectSym "("
    let aggregates ← commaSeparated do
      let tok ← next
      let name ← match tok.token with
        | .word v _ => pure v
        | _ => expected "a function identifier" (← peek)
      let call ← parseFunction n ⟨[⟨name, none⟩]⟩
      let name ← if ← parseKeyword "AS" then some <$> parseIdentifier else pure none
      pure (AliasedExpr.mk call name)
    expectKeyword "FOR"
    let p ← prec .between
    let columns ←
      if ← consumeSym "(" then
        let cs ← commaSeparated (parseSubexpr n p)
        expectSym ")"
        pure cs
      else pure [← parseSubexpr n p]
    expectKeyword "IN"
    expectSym "("
    let values ←
      if ← parseKeyword "ANY" then
        if ← parseKeywords ["ORDER", "BY"] then
          pure (PivotValues.any (← commaSeparated (parseOrderByExpr n)))
        else pure (PivotValues.any [])
      else if ← peekSubquery then pure (PivotValues.query (← parseQuery n))
      else pure (PivotValues.list (← commaSeparated (parseAliasedExpr n)))
    expectSym ")"
    let defaultOnNull ←
      if ← parseKeywords ["DEFAULT", "ON", "NULL"] then
        expectSym "("
        let e ← parseExpr n
        expectSym ")"
        pure (some e)
      else pure none
    expectSym ")"
    return .pivot t aggregates columns values defaultOnNull (← maybeTableAlias)

/-- The rest of `UNPIVOT [INCLUDE | EXCLUDE NULLS] (value FOR name IN (columns))`,
then an alias. -/
def parseUnpivot (fuel : Nat) (t : TableFactor) : Parser TableFactor :=
  match fuel with
  | 0 => throw .recursion
  | n + 1 => do
    let includeNulls ←
      if ← parseKeyword "INCLUDE" then
        expectKeyword "NULLS"
        pure (some true)
      else if ← parseKeyword "EXCLUDE" then
        expectKeyword "NULLS"
        pure (some false)
      else pure none
    expectSym "("
    let value ← parseExpr n
    expectKeyword "FOR"
    let name ← parseIdentifier
    expectKeyword "IN"
    if !(← consumeSym "(") then expected "a list of columns in parentheses" (← peek)
    let columns ← commaSeparated (parseAliasedExpr n)
    expectSym ")"
    expectSym ")"
    return .unpivot t includeNulls value name columns (← maybeTableAlias)

/-- A derived table after its opening parenthesis: `query) [alias]`. -/
def parseDerived (fuel : Nat) (lateral : Bool) : Parser TableFactor :=
  match fuel with
  | 0 => throw .recursion
  | n + 1 => do
    let q ← parseQuery n
    expectSym ")"
    return .derived lateral q (← maybeTableAlias)

/-- A `TABLESAMPLE` or `SAMPLE` clause, if present. -/
def parseTableSample (fuel : Nat) : Parser (Option TableSample) :=
  match fuel with
  | 0 => throw .recursion
  | n + 1 => do
    let kw ← parseOneOfKeywords ["TABLESAMPLE", "SAMPLE"]
    match kw with
    | none => return none
    | some kw =>
      let method ← parseOneOfKeywords ["BERNOULLI", "ROW", "SYSTEM", "BLOCK"]
      let parens ← consumeSym "("
      let value ← match ← maybeParse (parseExpr n) with
        | some e => pure e
        | none =>
          let t ← next
          match t.token with
          | .word v _ => pure (Expr.value (.placeholder v))
          | _ => failAt "Expecting number or byte length e.g. 100M" (← peek)
      let unit ← parseOneOfKeywords ["ROWS", "PERCENT"]
      if parens then expectSym ")"
      let seedKw ← parseOneOfKeywords ["REPEATABLE", "SEED"]
      let seed ← match seedKw with
        | some _ =>
          expectSym "("
          let v ← parseValue
          expectSym ")"
          pure (some (Expr.value v))
        | none => pure none
      return some (.mk kw method (some value) parens unit (seedKw.getD "REPEATABLE") seed)

/-- An expression. -/
def parseExpr (fuel : Nat) : Parser Expr :=
  match fuel with
  | 0 => throw .recursion
  | n + 1 => parseSubexpr n 0

/-- An expression whose infix operators all bind tighter than `minPrec`. -/
def parseSubexpr (fuel : Nat) (minPrec : Nat) : Parser Expr :=
  match fuel with
  | 0 => throw .recursion
  | n + 1 => nested do
    let e ← parsePrefix n
    let e ← parseCompound n e
    iterate (fun e => do
      let p ← nextPrecedence
      if minPrec ≥ p then return none
      if ← peekSym "." then return none
      return some (← parseInfix n e p)) e

/-- The dotted and subscripted continuation of an expression: `a.b.c`,
`schema.f(x)`, `t.*`, `a[1]`, `a[1:2]`. -/
def parseCompound (fuel : Nat) (root : Expr) : Parser Expr :=
  match fuel with
  | 0 => throw .recursion
  | n + 1 => do
    let d ← dialect
    let periodPrec ← prec .period
    let (chain, star) ← iterate (fun (acc : List Access × Bool) => do
      if acc.2 then return none
      if ← consumeSym "[" then return some (acc.1 ++ [← parseSubscript n], false)
      if !(← peekSym ".") then return none
      let t1 := (← peekAt 1).token
      if t1 == .sym "*" then
        if d == .postgres then
          advance
          advance
          return some (acc.1, true)
        return none
      advance
      match t1 with
      | .singleQuoted s =>
        advance
        return some (acc.1 ++ [.dot (.ident ⟨s, some '\''⟩)], false)
      | _ =>
        match ← parseSubexpr n periodPrec with
        | .compound ps => return some (acc.1 ++ ps.map (fun p => .dot (.ident p)), false)
        | .fieldAccess r fs => return some (acc.1 ++ .dot r :: fs, false)
        | e => return some (acc.1 ++ [.dot e], false)) ([], false)
    let idents : List Access → Option (List Ident) := fun es =>
      es.foldr (fun e acc => match e, acc with
        | .dot (.ident i), some is => some (i :: is)
        | _, _ => none) (some [])
    let rootIdent := match root with | .ident i => some i | _ => none
    if star then
      match rootIdent, idents chain with
      | some r, some ids => return .qualifiedWildcard (r :: ids)
      | _, _ => expected "an identifier or a '*' after '.'" (← peek)
    if chain.isEmpty then return root
    match rootIdent, idents chain with
    | some r, some ids => return .compound (r :: ids)
    | _, _ =>
      match rootIdent, chain.getLast? with
      | some r, some (.dot (.call fname args wg filter nt window)) =>
        match idents chain.dropLast with
        | some mids => return .call ⟨r :: mids ++ fname.parts⟩ args wg filter nt window
        | none => return .fieldAccess root chain
      | _, _ => return .fieldAccess root chain

/-- A subscript after its `[`: `[i]`, or a slice `[lower:upper:stride]` in which each
part may be left out. -/
def parseSubscript (fuel : Nat) : Parser Access :=
  match fuel with
  | 0 => throw .recursion
  | n + 1 => do
    let lower ← if ← consumeSym ":" then pure none else some <$> parseExpr n
    if ← consumeSym "]" then
      return match lower with
        | some e => .index e
        | none => .slice none none none
    if lower.isSome then expectSym ":"
    if ← consumeSym "]" then return .slice lower none none
    let upper ← parseExpr n
    if ← consumeSym "]" then return .slice lower (some upper) none
    expectSym ":"
    if ← consumeSym "]" then return .slice lower (some upper) none
    let stride ← parseExpr n
    expectSym "]"
    return .slice lower (some upper) (some stride)

/-- The start of an expression: a literal, a name, a call, a parenthesised
expression or subquery, a prefix operator, or a keyword form such as `CASE`. -/
def parsePrefix (fuel : Nat) : Parser Expr :=
  match fuel with
  | 0 => throw .recursion
  | n + 1 => do
    let typed ← maybeParse do
      let ty ← parseDataType
      if ty.custom || ty.interval then failWith ("dummy")
      return Expr.typedString ty.type (← parseValue)
    if let some e := typed then return e
    let e ← parseOperand n
    if ← parseKeyword "COLLATE" then return .collate e (← parseObjectName)
    return e

/-- The start of an expression other than a typed string, before any `COLLATE`. -/
def parseOperand (fuel : Nat) : Parser Expr :=
  match fuel with
  | 0 => throw .recursion
  | n + 1 => do
    let d ← dialect
    let t ← next
    match t.token with
    | .word v q =>
      let ident : Ident := ⟨v, q⟩
      match ← tryParse (prefixByReservedWord n t) with
      | .ok (some e) => return e
      | .ok none => prefixByUnreservedWord n ident
      | .error err =>
        let reserved := ["EXISTS", "INTERVAL", "STRUCT", "TRIM"].any t.token.isKeyword
        if !reserved then
          match ← tryParse (prefixByUnreservedWord n ident) with
          | .ok e => return e
          | .error _ => throw err
        throw err
    | .sym "[" => parseArrayExpr n false
    | .sym "-" => return .unary .minus (← parseSubexpr n (← prec .mulDivMod))
    | .sym "+" => return .unary .plus (← parseSubexpr n (← prec .mulDivMod))
    | .sym s =>
      if d == .postgres && ["!!", "|/", "||/", "@", "~"].contains s then
        return .unary (.other s) (← parseSubexpr n (← prec .plusMinus))
      if d.hasGeometry && ["#", "@-@", "@@", "?-", "?|"].contains s then
        return .unary (.spaced s) (← parseSubexpr n (← prec .plusMinus))
      if s == "~" then return .unary (.other "~") (← parseSubexpr n (← prec .plusMinus))
      if s == "(" then
        let e ←
          if ← peekSubquery then Expr.subquery <$> parseQuery n
          else
            let es ← commaSeparated (parseExpr n)
            match es with
            | [e] => pure (Expr.nested e)
            | _ => pure (Expr.tuple es)
        expectSym ")"
        return e
      if s == ":" || s == "@" then
        back
        return .value (← parseValue)
      expected "an expression" t
    | .escaped _ =>
      if d == .postgres || d == .generic then
        back
        return .value (← parseValue)
      expected "an expression" t
    | .number .. | .singleQuoted _ | .doubleQuoted _ | .dollarQuoted .. | .national _
    | .hex _ | .byteString _ | .unicode _ | .placeholder _ =>
      back
      return .value (← parseValue)
    | _ => expected "an expression" t

/-- Keyword forms of expressions, after the keyword `t` has been read; `none` when
the word has no special meaning here. -/
def prefixByReservedWord (fuel : Nat) (t : Located) : Parser (Option Expr) :=
  match fuel with
  | 0 => throw .recursion
  | n + 1 => do
    let d ← dialect
    let ident : Ident := match t.token with
      | .word v q => ⟨v, q⟩
      | _ => ⟨"", none⟩
    match t.token.keyword with
    | some "TRUE" | some "FALSE" =>
      if d.hasBooleanLiterals then
        back
        return some (.value (← parseValue))
      return none
    | some "NULL" =>
      back
      return some (.value (← parseValue))
    | some "CURRENT_CATALOG" | some "CURRENT_USER" | some "SESSION_USER" | some "USER" =>
      if d == .postgres || d == .generic then return some (.call ⟨[ident]⟩ .none [] none none none)
      return none
    | some "CURRENT_TIMESTAMP" | some "CURRENT_TIME" | some "CURRENT_DATE" | some "LOCALTIME"
    | some "LOCALTIMESTAMP" =>
      if ← consumeSym "(" then
        return some (.call ⟨[ident]⟩ (← parseFunctionArgs n) [] none none none)
      return some (.call ⟨[ident]⟩ .none [] none none none)
    | some "CASE" => return some (← parseCase n)
    | some "CAST" => return some (← parseCast n .cast)
    | some "TRY_CAST" => return some (← parseCast n .tryCast)
    | some "CONVERT" => return some (← parseConvert n false)
    | some "TRY_CONVERT" =>
      if d.hasTryConvert then return some (← parseConvert n true) else return none
    | some "OVERLAY" =>
      expectSym "("
      let e ← parseExpr n
      expectKeyword "PLACING"
      let what ← parseExpr n
      expectKeyword "FROM"
      let start ← parseExpr n
      let len ← if ← parseKeyword "FOR" then some <$> parseExpr n else pure none
      expectSym ")"
      return some (.overlay e what start len)
    | some "MATCH" =>
      if !d.hasMatchAgainst then return none
      expectSym "("
      let columns ← commaSeparated parseObjectName
      expectSym ")"
      expectKeyword "AGAINST"
      expectSym "("
      let value ← parseValue
      let modifier ←
        if ← parseKeywords ["IN", "NATURAL", "LANGUAGE", "MODE"] then
          if ← parseKeywords ["WITH", "QUERY", "EXPANSION"] then
            pure (some "IN NATURAL LANGUAGE MODE WITH QUERY EXPANSION")
          else pure (some "IN NATURAL LANGUAGE MODE")
        else if ← parseKeywords ["IN", "BOOLEAN", "MODE"] then pure (some "IN BOOLEAN MODE")
        else if ← parseKeywords ["WITH", "QUERY", "EXPANSION"] then pure (some "WITH QUERY EXPANSION")
        else pure none
      expectSym ")"
      return some (.matchAgainst columns value modifier)
    | some "SAFE_CAST" => return some (← parseCast n .safeCast)
    | some "EXISTS" => return some (← parseExists n false)
    | some "EXTRACT" =>
      expectSym "("
      let field ← parseDateTimeField
      let comma ← do
        if ← parseKeyword "FROM" then pure false
        else if ← consumeSym "," then pure true
        else expected "'FROM' or ','" (← peek)
      let e ← parseExpr n
      expectSym ")"
      return some (.extract field comma e)
    | some "CEIL" | some "FLOOR" =>
      expectSym "("
      let e ← parseExpr n
      let suffix ← do
        if ← parseKeyword "TO" then pure (" TO " ++ (← parseDateTimeField))
        else if ← consumeSym "," then
          let v ← parseValue
          pure (", " ++ v.render)
        else pure ""
      expectSym ")"
      return some (.ceilFloor (t.token.isKeyword "CEIL") e suffix)
    | some "POSITION" =>
      if !(← peekSym "(") then return none
      let between ← prec .between
      let pos ← maybeParse do
        expectSym "("
        let e ← parseSubexpr n between
        expectKeyword "IN"
        let w ← parseExpr n
        expectSym ")"
        return Expr.position e w
      match pos with
      | some e => return some e
      | none => return some (← parseFunction n ⟨[ident]⟩)
    | some "SUBSTR" | some "SUBSTRING" =>
      let short := t.token.isKeyword "SUBSTR"
      expectSym "("
      let e ← parseExpr n
      let comma ← consumeSym ","
      let fromStart ← if comma then pure true else parseKeyword "FROM"
      let start ← if fromStart then some <$> parseExpr n else pure none
      let lenNext ← do
        if ← parseKeyword "FOR" then pure true else consumeSym ","
      let len ← if lenNext then some <$> parseExpr n else pure none
      expectSym ")"
      return some (.substring e start len comma short)
    | some "TRIM" =>
      expectSym "("
      let w ← parseOneOfKeywords ["BOTH", "LEADING", "TRAILING"]
      let e ← parseExpr n
      if ← parseKeyword "FROM" then
        let e2 ← parseExpr n
        expectSym ")"
        return some (.trim w (some e) e2 [])
      if d == .generic && (← peekSym ",") then
        advance
        let cs ← commaSeparated (parseExpr n)
        expectSym ")"
        return some (.trim none none e cs)
      expectSym ")"
      return some (.trim w none e [])
    | some "INTERVAL" => return some (← parseIntervalBody n)
    | some "ARRAY" =>
      if ← consumeSym "[" then return some (← parseArrayExpr n true)
      if ← peekSym "(" then
        expectSym "("
        let q ← parseQuery n
        expectSym ")"
        return some (.call ⟨[ident]⟩ (.subquery q) [] none none none)
      return none
    | some "NOT" => return some (← parseNot n)
    | _ => return none

/-- The value and qualifier of an interval, after `INTERVAL` or where a window frame
bound is a string. Where a qualifier is required the value is a whole expression
(`INTERVAL 1 + 1 DAY`); elsewhere it is a single operand, so that the qualifier,
if any, belongs to it. -/
def parseIntervalBody (fuel : Nat) : Parser Expr :=
  match fuel with
  | 0 => throw .recursion
  | n + 1 => do
    let value ← if (← dialect).requiresIntervalUnit then parseExpr n else parsePrefix n
    return .interval value (← parseIntervalQualifier)

/-- A word without special meaning: a function call when `(` follows, else a name. -/
def prefixByUnreservedWord (fuel : Nat) (ident : Ident) : Parser Expr :=
  match fuel with
  | 0 => throw .recursion
  | n + 1 => do
    if ← peekSym "(" then return ← parseFunction n ⟨[ident]⟩
    if ident.value.startsWith "_" then
      match ← peekToken with
      | .singleQuoted s => advance; return .introduced ident (.singleQuoted s)
      | .doubleQuoted s => advance; return .introduced ident (.doubleQuoted s)
      | .hex s => advance; return .introduced ident (.hex s)
      | _ => pure ()
    return .ident ident

/-- A call after its name: arguments, then `FILTER (WHERE ...)` and `OVER ...`. -/
def parseFunction (fuel : Nat) (name : Name) : Parser Expr :=
  match fuel with
  | 0 => throw .recursion
  | n + 1 => do
    expectSym "("
    let args ← parseFunctionArgs n
    let withinGroup ←
      if ← parseKeywords ["WITHIN", "GROUP"] then
        expectSym "("
        expectKeywords ["ORDER", "BY"]
        let keys ← commaSeparated (parseOrderByExpr n)
        expectSym ")"
        pure keys
      else pure []
    let filter ←
      if (← dialect).hasAggregateFilter then
        if ← parseKeyword "FILTER" then
          if ← consumeSym "(" then
            if ← parseKeyword "WHERE" then
              let f ← parseExpr n
              expectSym ")"
              pure (some f)
            else pure none
          else pure none
        else pure none
      else pure none
    let nullTreatment ←
      match args with
      | .list _ _ clauses =>
        if clauses.any (fun | .nullTreatment _ => true | _ => false) then pure none
        else parseNullTreatment
      | _ => parseNullTreatment
    let window ←
      if ← parseKeyword "OVER" then
        if ← consumeSym "(" then some <$> parseWindowSpec n
        else pure (some (WindowSpec.named (← parseIdentifier)))
      else pure none
    return .call name args withinGroup filter nullTreatment window

/-- An argument list after its opening parenthesis, up to the closing one. -/
def parseFunctionArgs (fuel : Nat) : Parser FunctionArgs :=
  match fuel with
  | 0 => throw .recursion
  | n + 1 => do
    let d ← dialect
    let jsonClauses : Parser (List ArgClause) := do
      let nullClause ←
        if ← parseKeywords ["ABSENT", "ON", "NULL"] then pure [ArgClause.jsonNull true]
        else if ← parseKeywords ["NULL", "ON", "NULL"] then pure [ArgClause.jsonNull false]
        else pure []
      let returning ←
        if ← parseKeyword "RETURNING" then pure [ArgClause.returning (← parseDataType).type]
        else pure []
      return nullClause ++ returning
    let leading ← jsonClauses
    if ← consumeSym ")" then return .list none [] leading
    let allTok ← peek
    let all ← parseKeyword "ALL"
    let distinct ← parseKeyword "DISTINCT"
    let dup ← match all, distinct with
      | true, true => failAt "Cannot specify both ALL and DISTINCT" allTok
      | true, false => pure (some false)
      | false, true => pure (some true)
      | false, false => pure none
    let args ← commaSeparated (parseFunctionArg n)
    let nulls ←
      if d == .generic then (fun t => (t.map ArgClause.nullTreatment).toList) <$> parseNullTreatment
      else pure []
    let orderBy ←
      if ← parseKeywords ["ORDER", "BY"] then
        pure [ArgClause.orderBy (← commaSeparated (parseOrderByExpr n))]
      else pure []
    let limit ← if ← parseKeyword "LIMIT" then pure [ArgClause.limit (← parseExpr n)] else pure []
    let having ←
      if ← parseWhen (d == .generic) (parseKeyword "HAVING") then
        let max ← match ← expectOneOfKeywords ["MIN", "MAX"] with
          | "MAX" => pure true
          | _ => pure false
        pure [ArgClause.having max (← parseExpr n)]
      else pure []
    let separator ←
      if ← parseWhen (d == .generic || d == .mysql) (parseKeyword "SEPARATOR") then
        pure [ArgClause.separator (← parseValue)]
      else pure []
    let overflow ←
      if ← parseKeywords ["ON", "OVERFLOW"] then
        if ← parseKeyword "ERROR" then pure [ArgClause.onOverflowError]
        else
          expectKeyword "TRUNCATE"
          let filler ← match ← peekToken with
            | .word _ none =>
              if (← peekKeyword "WITH") || (← peekKeyword "WITHOUT") then pure none
              else expected "either filler, WITH, or WITHOUT in LISTAGG" (← peek)
            | .singleQuoted _ | .escaped _ | .unicode _ | .national _ | .hex _ =>
              some <$> parseExpr n
            | _ => expected "either filler, WITH, or WITHOUT in LISTAGG" (← peek)
          let withCount ← parseKeyword "WITH"
          if !(← parseEither (pure withCount) (parseKeyword "WITHOUT")) then
            expected "either WITH or WITHOUT in LISTAGG" (← peek)
          expectKeyword "COUNT"
          pure [ArgClause.onOverflowTruncate filler withCount]
      else pure []
    let trailing ← jsonClauses
    expectSym ")"
    return .list dup args (leading ++ nulls ++ orderBy ++ limit ++ having ++ separator ++ overflow ++
      trailing)

/-- One argument of a call, possibly named (`name => value`). -/
def parseFunctionArg (fuel : Nat) : Parser FunctionArg :=
  match fuel with
  | 0 => throw .recursion
  | n + 1 => do
    let t1 := (← peekAt 1).token
    if t1 == .sym "=>" then
      let name ← parseIdentifier
      expectSym "=>"
      return .named name .rightArrow (← parseWildcardExpr n)
    if t1 == .sym ":=" && (← dialect) == .generic then
      let name ← parseIdentifier
      expectSym ":="
      return .named name .assignment (← parseWildcardExpr n)
    return .unnamed (← parseWildcardExpr n)

/-- A window after `OVER (`: name, `PARTITION BY`, `ORDER BY` and frame, up to `)`. -/
def parseWindowSpec (fuel : Nat) : Parser WindowSpec :=
  match fuel with
  | 0 => throw .recursion
  | n + 1 => do
    let t ← peekToken
    -- only a word that is no keyword can name the window this one refines
    let name ← if t.isPlainWord then some <$> parseIdentifier else pure none
    let parts ←
      if ← parseKeywords ["PARTITION", "BY"] then commaSeparated (parseExpr n) else pure []
    let orderBy ←
      if ← parseKeywords ["ORDER", "BY"] then commaSeparated (parseOrderByExpr n) else pure []
    if ← consumeSym ")" then return .spec name parts orderBy none
    let units ← match ← parseOneOfKeywords ["ROWS", "RANGE", "GROUPS"] with
      | some u => pure u
      | none => expected "ROWS, RANGE, GROUPS" (← peek)
    let frame ←
      if ← parseKeyword "BETWEEN" then
        let s ← parseFrameBound n
        expectKeyword "AND"
        let e ← parseFrameBound n
        pure (WindowFrame.mk units s (some e))
      else pure (WindowFrame.mk units (← parseFrameBound n) none)
    expectSym ")"
    return .spec name parts orderBy (some frame)

/-- One bound of a window frame. A string offset is read as an interval. -/
def parseFrameBound (fuel : Nat) : Parser FrameBound :=
  match fuel with
  | 0 => throw .recursion
  | n + 1 => do
    if ← parseKeywords ["CURRENT", "ROW"] then return .currentRow
    let rows ←
      if ← parseKeyword "UNBOUNDED" then pure none
      else match ← peekToken with
        | .singleQuoted _ => some <$> parseIntervalBody n
        | _ => some <$> parseExpr n
    if ← parseKeyword "PRECEDING" then return .preceding rows
    if ← parseKeyword "FOLLOWING" then return .following rows
    expected "PRECEDING or FOLLOWING" (← peek)

/-- One key of an `ORDER BY`: expression, direction and null ordering. -/
def parseOrderByExpr (fuel : Nat) : Parser OrderByExpr :=
  match fuel with
  | 0 => throw .recursion
  | n + 1 => do
    let e ← parseExpr n
    let asc ← do
      if ← parseKeyword "ASC" then pure (some true)
      else if ← parseKeyword "DESC" then pure (some false) else pure none
    let nulls ← do
      if ← parseKeywords ["NULLS", "FIRST"] then pure (some true)
      else if ← parseKeywords ["NULLS", "LAST"] then pure (some false) else pure none
    return .mk e asc nulls

/-- `LIMIT`, `OFFSET` in either order, or the comma form `LIMIT offset, count`. -/
def parseLimitClause (fuel : Nat) : Parser Limit :=
  match fuel with
  | 0 => throw .recursion
  | n + 1 => do
    let d ← dialect
    let offsetRows : Parser (Expr × OffsetRows) := do
      let v ← parseExpr n
      let r ← do
        if ← parseKeyword "ROW" then pure OffsetRows.row
        else if ← parseKeyword "ROWS" then pure OffsetRows.rows else pure OffsetRows.none
      return (v, r)
    let firstOffset ← if ← parseKeyword "OFFSET" then some <$> offsetRows else pure none
    if ← parseKeyword "LIMIT" then
      let lim ← if ← parseKeyword "ALL" then pure none else some <$> parseExpr n
      if (d == .mysql || d == .sqlite || d == .generic) && firstOffset.isNone then
        if let some o := lim then
          if ← consumeSym "," then return .offsetComma o (← parseExpr n)
      let offset ←
        if firstOffset.isNone then
          if ← parseKeyword "OFFSET" then some <$> offsetRows else pure none
        else pure firstOffset
      match offset with
      | some (o, r) => return .limitOffset lim (some o) r
      | none => return if lim.isSome then .limitOffset lim none .none else .none
    match firstOffset with
    | some (o, r) => return .limitOffset none (some o) r
    | none => return .none

/-- `CASE [operand] WHEN ... THEN ... [ELSE ...] END` after `CASE`. -/
def parseCase (fuel : Nat) : Parser Expr :=
  match fuel with
  | 0 => throw .recursion
  | n + 1 => do
    let operand ←
      if ← parseKeyword "WHEN" then pure none
      else
        let o ← parseExpr n
        expectKeyword "WHEN"
        pure (some o)
    let whens ← iterate (fun (acc : List WhenBranch × Bool) => do
      if acc.2 then return none
      let c ← parseExpr n
      expectKeyword "THEN"
      let r ← parseExpr n
      let more ← parseKeyword "WHEN"
      return some (.mk c r :: acc.1, !more)) ([], false)
    let otherwise ← if ← parseKeyword "ELSE" then some <$> parseExpr n else pure none
    expectKeyword "END"
    return .case operand whens.1.reverse otherwise

/-- `(expr AS type)` after `CAST` and its kin. -/
def parseCast (fuel : Nat) (style : CastStyle) : Parser Expr :=
  match fuel with
  | 0 => throw .recursion
  | n + 1 => do
    expectSym "("
    let e ← parseExpr n
    expectKeyword "AS"
    let ty ← parseDataType
    expectSym ")"
    return .cast style e ty.type

/-- The parenthesised part of `CONVERT` or `TRY_CONVERT`: `(e, type [CHARACTER SET cs])`
or `(e USING cs)`, and in MS SQL `(type, e[, style, ...])`. -/
def parseConvert (fuel : Nat) (isTry : Bool) : Parser Expr :=
  match fuel with
  | 0 => throw .recursion
  | n + 1 => do
    expectSym "("
    if (← dialect) == .mssql then
      let ty ← parseDataType
      expectSym ","
      let e ← parseExpr n
      let styles ← if ← consumeSym "," then commaSeparated (parseExpr n) else pure []
      expectSym ")"
      return .convert isTry e (some ty.type) none true styles
    let e ← parseExpr n
    if ← parseKeyword "USING" then
      let cs ← parseObjectName
      expectSym ")"
      return .convert isTry e none (some cs) false []
    expectSym ","
    let ty ← parseDataType
    let cs ← if ← parseKeywords ["CHARACTER", "SET"] then some <$> parseObjectName else pure none
    expectSym ")"
    return .convert isTry e (some ty.type) cs false []

/-- `(query)` after `EXISTS`. -/
def parseExists (fuel : Nat) (negated : Bool) : Parser Expr :=
  match fuel with
  | 0 => throw .recursion
  | n + 1 => do
    expectSym "("
    let q ← parseQuery n
    expectSym ")"
    return .exists negated q

/-- The operand of a prefix `NOT`; `NOT EXISTS` is a negated existence test. -/
def parseNot (fuel : Nat) : Parser Expr :=
  match fuel with
  | 0 => throw .recursion
  | n + 1 => do
    if ← parseKeyword "EXISTS" then return ← parseExists n true
    return .unary .not (← parseSubexpr n (← prec .unaryNot))

/-- The elements of an array literal after its `[`, up to `]`. -/
def parseArrayExpr (fuel : Nat) (named : Bool) : Parser Expr :=
  match fuel with
  | 0 => throw .recursion
  | n + 1 => do
    if ← consumeSym "]" then return .array named []
    let es ← commaSeparated (parseExpr n)
    expectSym "]"
    return .array named es

/-- The right side of an infix operator whose token comes next. -/
def parseInfix (fuel : Nat) (e : Expr) (p : Nat) : Parser Expr :=
  match fuel with
  | 0 => throw .recursion
  | n + 1 => do
    let d ← dialect
    if d == .sqlite then
      -- SQLite reads `REGEXP` and `MATCH` as plain operators over the whole rest
      match (← peekToken).keyword with
      | some "REGEXP" | some "MATCH" =>
        let t ← next
        return .binary e (.other (t.token.keyword.getD "")) (← parseExpr n)
      | _ => pure ()
    let t ← next
    let op ←
      if t.token.isKeyword "OPERATOR" && (d == .postgres || d == .generic) then do
        expectSym "("
        let parts ← iterate (fun (acc : List String × Bool) => do
          if acc.2 then return none
          let part ← next
          return some (acc.1 ++ [part.token.text], !(← consumeSym "."))) ([], false)
        expectSym ")"
        pure (some (BinOp.other ("OPERATOR(" ++ ".".intercalate parts.1 ++ ")")))
      else pure (binaryOperator d t.token)
    match op with
    | some op =>
      match ← parseOneOfKeywords ["ANY", "ALL", "SOME"] with
      | some q =>
        expectSym "("
        let right ←
          if ← peekSubquery then
            back
            parseSubexpr n p
          else
            let r ← parseSubexpr n p
            expectSym ")"
            pure r
        if !op.isComparison then
          failAt ("Expected one of [=, >, <, =>, =<, !=, ~, ~*, !~, !~*, ~~, ~~*, !~~, !~~*] " ++
            "as comparison operator, found: " ++ op.symbol) t
        let quant : Quantifier := if q == "ALL" then .all else if q == "SOME" then .some else .any
        return .quantified e op quant right
      | none => return .binary e op (← parseSubexpr n p)
    | none =>
      let kw := t.token.keyword
      if kw == some "IS" then
        if ← parseKeyword "NULL" then return .isTest e .null
        if ← parseKeywords ["NOT", "NULL"] then return .isTest e .notNull
        if ← parseKeyword "TRUE" then return .isTest e .true_
        if ← parseKeywords ["NOT", "TRUE"] then return .isTest e .notTrue
        if ← parseKeyword "FALSE" then return .isTest e .false_
        if ← parseKeywords ["NOT", "FALSE"] then return .isTest e .notFalse
        if ← parseKeyword "UNKNOWN" then return .isTest e .unknown
        if ← parseKeywords ["NOT", "UNKNOWN"] then return .isTest e .notUnknown
        if ← parseKeywords ["DISTINCT", "FROM"] then return .isDistinctFrom e false (← parseExpr n)
        if ← parseKeywords ["NOT", "DISTINCT", "FROM"] then
          return .isDistinctFrom e true (← parseExpr n)
        -- a failed normal-form test keeps the words it read before the error
        let negated ← parseKeyword "NOT"
        let form ← parseOneOfKeywords ["NFC", "NFD", "NFKC", "NFKD"]
        if ← parseKeyword "NORMALIZED" then return .isTest e (.normalized negated form)
        expected "[NOT] NULL | TRUE | FALSE | DISTINCT | [form] NORMALIZED FROM after IS" (← peek)
      if kw == some "AT" then
        expectKeywords ["TIME", "ZONE"]
        return .atTimeZone e (← parseSubexpr n p)
      if ["NOT", "IN", "BETWEEN", "LIKE", "ILIKE", "SIMILAR", "REGEXP", "RLIKE"].any t.token.isKeyword then
        back
        let negated ← parseKeyword "NOT"
        let regexp ← parseKeyword "REGEXP"
        let rlike ← parseKeyword "RLIKE"
        let null ← parseKeyword "NULL"
        let likePrec ← prec .like
        let escape : Parser (Option Value) := do
          if ← parseKeyword "ESCAPE" then return some (← parseValue) else return none
        if regexp || rlike then
          let pat ← parseSubexpr n likePrec
          return .like e negated (if regexp then .regexp else .rlike) false pat none
        if negated && null then return .isTest e .notNull
        if ← parseKeyword "IN" then return ← parseIn n e negated
        if ← parseKeyword "BETWEEN" then
          let between ← prec .between
          let lo ← parseSubexpr n between
          expectKeyword "AND"
          let hi ← parseSubexpr n between
          return .between e negated lo hi
        if ← parseKeyword "LIKE" then
          let any ← parseKeyword "ANY"
          let pat ← parseSubexpr n likePrec
          return .like e negated .like any pat (← escape)
        if ← parseKeyword "ILIKE" then
          let any ← parseKeyword "ANY"
          let pat ← parseSubexpr n likePrec
          return .like e negated .ilike any pat (← escape)
        if ← parseKeywords ["SIMILAR", "TO"] then
          let pat ← parseSubexpr n likePrec
          return .like e negated .similarTo false pat (← escape)
        expected "IN or BETWEEN after NOT" (← peek)
      if kw == some "NOTNULL" && d.hasNotNullOperator then return .isTest e .notNull
      if kw == some "MEMBER" then
        if !(← parseKeyword "OF") then expected "OF after MEMBER" (← peek)
        expectSym "("
        let array ← parseExpr n
        expectSym ")"
        return .memberOf e array
      if t.token == .sym "::" then return .cast .doubleColon e (← parseDataType).type
      if t.token == .sym "!" && d == .postgres then return .unary .factorial e
      failAt ("No infix parser for token " ++ t.token.debugText) t

/-- The list or subquery of `IN` after the keyword. -/
def parseIn (fuel : Nat) (e : Expr) (negated : Bool) : Parser Expr :=
  match fuel with
  | 0 => throw .recursion
  | n + 1 => do
    expectSym "("
    match ← maybeParse (parseQuery n) with
    | some q =>
      expectSym ")"
      return .inSubquery e negated q
    | none =>
      let d ← dialect
      let items ←
        if d == .sqlite && (← peekSym ")") then pure []
        else commaSeparated (parseExpr n)
      expectSym ")"
      return .inList e negated items


/-- `column = value`, or `(a, b) = value`. -/
def parseAssignment (fuel : Nat) : Parser Assignment :=
  match fuel with
  | 0 => throw .recursion
  | n + 1 => do
    let target ←
      if ← consumeSym "(" then
        let names ← commaSeparated parseObjectName
        expectSym ")"
        pure (AssignTarget.tuple names)
      else AssignTarget.column <$> parseObjectName
    expectSym "="
    return { target, value := ← parseExpr n }

/-- `RETURNING items`, if present. -/
def parseReturning (fuel : Nat) : Parser (Option (List SelectItem)) :=
  match fuel with
  | 0 => throw .recursion
  | n + 1 => do
    if ← parseKeyword "RETURNING" then return some (← commaSeparated (parseSelectItem n))
    return none

/-- The rest of an `INSERT` (or of a `REPLACE` when `replace`). -/
def parseInsert (fuel : Nat) (replace : Bool) : Parser Statement :=
  match fuel with
  | 0 => throw .recursion
  | n + 1 => do
    let d ← dialect
    let orClause ← parseConflictClause
    let mysqlLike := d == .mysql || d == .generic
    let priority ← if mysqlLike then parseOneOfKeywords ["LOW_PRIORITY", "DELAYED", "HIGH_PRIORITY"]
      else pure none
    let ignore ← if mysqlLike then parseKeyword "IGNORE" else pure false
    let into ← parseKeyword "INTO"
    let tableKeyword ← parseKeyword "TABLE"
    let table ← parseObjectName
    let aliasNext ← if d == .postgres then parseKeyword "AS" else pure false
    let aliasName ← if aliasNext then some <$> parseIdentifier else pure none
    let (columns, source, assignments) ←
      if ← parseKeywords ["DEFAULT", "VALUES"] then pure ([], none, [])
      else
        let subqueryNext := (← peekToken) == .sym "(" && (← peekAt 1).token.isKeyword "SELECT"
        let columns ← if subqueryNext then pure [] else parseColumnList (d == .mysql)
        let setNext ← if mysqlLike then parseKeyword "SET" else pure false
        if setNext then
          pure (columns, none, ← commaSeparated (parseAssignment n))
        else pure (columns, some (← parseQuery n), [])
    let rowAlias ←
      if ← parseWhen mysqlLike (parseKeyword "AS") then
        let name ← parseObjectName
        pure (some (name, ← parseColumnList false))
      else pure none
    let on ←
      if ← parseKeyword "ON" then
        if ← parseKeyword "CONFLICT" then
          let (target, constraintName) ← do
            if ← parseKeywords ["ON", "CONSTRAINT"] then pure (none, some (← parseObjectName))
            else if ← peekSym "(" then
              expectSym "("
              let cols ← commaSeparated parseIdentifier
              expectSym ")"
              pure (some cols, none)
            else pure (none, none)
          expectKeyword "DO"
          let action ←
            if ← parseKeyword "NOTHING" then pure none
            else
              expectKeyword "UPDATE"
              expectKeyword "SET"
              let sets ← commaSeparated (parseAssignment n)
              let cond ← if ← parseKeyword "WHERE" then some <$> parseExpr n else pure none
              pure (some (sets, cond))
          pure (some (OnInsert.onConflict target constraintName action))
        else
          expectKeyword "DUPLICATE"
          expectKeyword "KEY"
          expectKeyword "UPDATE"
          pure (some (OnInsert.duplicateKeyUpdate (← commaSeparated (parseAssignment n))))
      else pure none
    let returning ← parseReturning n
    return .insert { orClause, replace, priority, ignore, into, tableKeyword, table, aliasName, columns,
                     source, assignments, rowAlias, on, returning }

/-- The rest of an `UPDATE`. -/
def parseUpdate (fuel : Nat) : Parser Statement :=
  match fuel with
  | 0 => throw .recursion
  | n + 1 => do
    let orClause ← parseConflictClause
    let table ← parseTableAndJoins n
    let before ← if ← parseKeyword "FROM" then some <$> commaSeparated (parseTableAndJoins n)
      else pure none
    expectKeyword "SET"
    let assignments ← commaSeparated (parseAssignment n)
    let from_ ← match before with
      | some ts => pure (some (UpdateFrom.beforeSet ts))
      | none =>
        if ← parseKeyword "FROM" then
          pure (some (UpdateFrom.afterSet (← commaSeparated (parseTableAndJoins n))))
        else pure none
    let selection ← if ← parseKeyword "WHERE" then some <$> parseExpr n else pure none
    let returning ← parseReturning n
    let limit ← if ← parseKeyword "LIMIT" then some <$> parseExpr n else pure none
    return .update { orClause, table, assignments, from_, selection, returning, limit }

/-- The rest of a `DELETE`. Without `FROM`, the generic dialect reads the tables
directly; the others read the names of the tables to delete from, then `FROM`. -/
def parseDelete (fuel : Nat) : Parser Statement :=
  match fuel with
  | 0 => throw .recursion
  | n + 1 => do
    let (tables, fromKeyword) ←
      if ← parseKeyword "FROM" then pure ([], true)
      else if (← dialect) == .generic then pure ([], false)
      else
        let ts ← commaSeparated parseObjectName
        expectKeyword "FROM"
        pure (ts, true)
    let from_ ← commaSeparated (parseTableAndJoins n)
    let usingTables ← if ← parseKeyword "USING" then some <$> commaSeparated (parseTableAndJoins n)
      else pure none
    let selection ← if ← parseKeyword "WHERE" then some <$> parseExpr n else pure none
    let returning ← parseReturning n
    let orderBy ← if ← parseKeywords ["ORDER", "BY"] then commaSeparated (parseOrderByExpr n)
      else pure []
    let limit ←
      if ← parseKeyword "LIMIT" then
        if ← parseKeyword "ALL" then pure none else some <$> parseExpr n
      else pure none
    return .delete { tables, fromKeyword, from_, usingTables, selection, returning, orderBy, limit }

/-- The rest of a `MERGE` statement, as its canonical text. -/
def parseMerge (fuel : Nat) : Parser Statement :=
  match fuel with
  | 0 => throw .recursion
  | n + 1 => do
    let d ← dialect
    let into ← parseKeyword "INTO"
    let table ← parseTableFactor n
    expectKeyword "USING"
    let source ← parseTableFactor n
    expectKeyword "ON"
    let on ← parseExpr n
    let clauses ← iterate (fun acc => do
      if !(← parseKeyword "WHEN") then return none
      let notMatched ← parseKeyword "NOT"
      expectKeyword "MATCHED"
      let kind ← do
        if notMatched then
          if ← parseKeywords ["BY", "SOURCE"] then pure "NOT MATCHED BY SOURCE"
          else if ← parseKeywords ["BY", "TARGET"] then pure "NOT MATCHED BY TARGET"
          else pure "NOT MATCHED"
        else pure "MATCHED"
      let insertAllowed := kind == "NOT MATCHED" || kind == "NOT MATCHED BY TARGET"
      let pred ← if ← parseKeyword "AND" then some <$> parseExpr n else pure none
      expectKeyword "THEN"
      let action ← match ← parseOneOfKeywords ["UPDATE", "INSERT", "DELETE"] with
        | some "UPDATE" =>
          if insertAllowed then failWith ("UPDATE is not allowed in a " ++ kind ++ " merge clause")
          expectKeyword "SET"
          pure ("UPDATE SET " ++ renderAssignments (← commaSeparated (parseAssignment n)))
        | some "DELETE" =>
          if insertAllowed then failWith ("DELETE is not allowed in a " ++ kind ++ " merge clause")
          pure "DELETE"
        | some _ =>
          if !insertAllowed then failWith ("INSERT is not allowed in a " ++ kind ++ " merge clause")
          let cols ← parseColumnList (d == .mysql)
          let rowNext ← if d == .generic then parseKeyword "ROW" else pure false
          let body ←
            if rowNext then pure "ROW"
            else
              expectKeyword "VALUES"
              pure (← parseValues n false).render
          pure ("INSERT " ++ (if cols.isEmpty then "" else "(" ++ commaList (cols.map Ident.render) ++ ") ") ++ body)
        | none => failWith ("expected UPDATE, DELETE or INSERT in merge clause")
      let clause := "WHEN " ++ kind ++ (match pred with | some p => " AND " ++ p.render | none => "") ++
        " THEN " ++ action
      return some (acc ++ [clause])) []
    return .other ("MERGE" ++ (if into then " INTO" else "") ++ " " ++ table.render ++ " USING " ++
      source.render ++ " ON " ++ on.render ++ " " ++ " ".intercalate clauses)

end

end Parser

end SqlScope.Sql
