import SqlScope.Sql.Parser.Catalog

/-!
# Statements about the session

Transactions (`BEGIN`, `START TRANSACTION`, `COMMIT`, `END`, `ROLLBACK` and
savepoints), settings (`SET`, `SHOW`, `USE`) and procedure calls (`CALL`). Like
the definitions of tables, they are read in full and kept as canonical text.

The canonical forms drop the words that change nothing: `COMMIT WORK` prints as
`COMMIT`, `SET x TO 1` as `SET x = 1`, and `SHOW FIELDS` as `SHOW COLUMNS`.
-/

namespace SqlScope.Sql

namespace Parser

/-- The isolation levels and access modes after `BEGIN` or `START TRANSACTION`.
A comma between two modes may be left out, but after a comma a mode must follow. -/
def parseTransactionModes : Parser (List String) := do
  let (modes, _) ← iterate (fun (acc : List String × Bool) => do
    let mode ← do
      if ← parseKeywords ["ISOLATION", "LEVEL"] then
        if ← parseKeywords ["READ", "UNCOMMITTED"] then pure (some "ISOLATION LEVEL READ UNCOMMITTED")
        else if ← parseKeywords ["READ", "COMMITTED"] then pure (some "ISOLATION LEVEL READ COMMITTED")
        else if ← parseKeywords ["REPEATABLE", "READ"] then pure (some "ISOLATION LEVEL REPEATABLE READ")
        else if ← parseKeyword "SERIALIZABLE" then pure (some "ISOLATION LEVEL SERIALIZABLE")
        else if ← parseKeyword "SNAPSHOT" then pure (some "ISOLATION LEVEL SNAPSHOT")
        else expected "isolation level" (← peek)
      else if ← parseKeywords ["READ", "ONLY"] then pure (some "READ ONLY")
      else if ← parseKeywords ["READ", "WRITE"] then pure (some "READ WRITE")
      else if acc.2 then expected "transaction mode" (← peek)
      else pure none
    match mode with
    | none => return none
    | some m => return some (acc.1 ++ [m], ← consumeSym ",")) ([], false)
  return modes

/-- The modes of a transaction as the text after its keywords. -/
def modesText (modes : List String) : String :=
  if modes.isEmpty then "" else " " ++ commaList modes

/-- The rest of `BEGIN [modifier] [TRANSACTION | WORK | TRAN] [modes]`. -/
def parseBegin : Parser String := do
  let d ← dialect
  let modifier ←
    if d.hasTransactionModifier then
      parseOneOfKeywords ["DEFERRED", "IMMEDIATE", "EXCLUSIVE", "TRY", "CATCH"]
    else pure none
  let kind ← parseOneOfKeywords ["TRANSACTION", "WORK", "TRAN"]
  let modes ← parseTransactionModes
  return "BEGIN" ++ (match modifier with | some m => " " ++ m | none => "") ++
    (match kind with | some k => " " ++ k | none => "") ++ modesText modes

/-- The rest of `START TRANSACTION [modes]`. -/
def parseStartTransaction : Parser String := do
  expectKeyword "TRANSACTION"
  return "START TRANSACTION" ++ modesText (← parseTransactionModes)

/-- `[TRANSACTION | WORK | TRAN] [AND [NO] CHAIN]` after `COMMIT`, `END` or
`ROLLBACK`: whether the next transaction is chained. -/
def parseChain : Parser Bool := do
  let _ ← parseOneOfKeywords ["TRANSACTION", "WORK", "TRAN"]
  if ← parseKeyword "AND" then
    let chain := !(← parseKeyword "NO")
    expectKeyword "CHAIN"
    return chain
  return false

/-- The rest of `COMMIT`. -/
def parseCommit : Parser String := do
  return "COMMIT" ++ (if ← parseChain then " AND CHAIN" else "")

/-- The rest of `END`, which commits. -/
def parseEnd : Parser String := do
  let modifier ←
    if (← dialect) == .mssql then parseOneOfKeywords ["TRY", "CATCH"] else pure none
  let chain ← parseChain
  return "END" ++ (match modifier with | some m => " " ++ m | none => "") ++
    (if chain then " AND CHAIN" else "")

/-- The rest of `ROLLBACK [AND [NO] CHAIN] [TO [SAVEPOINT] name]`. -/
def parseRollback : Parser String := do
  let chain ← parseChain
  let savepoint ←
    if ← parseKeyword "TO" then
      let _ ← parseKeyword "SAVEPOINT"
      pure (some (← parseIdentifier))
    else pure none
  return "ROLLBACK" ++ (if chain then " AND CHAIN" else "") ++
    (match savepoint with | some s => " TO SAVEPOINT " ++ s.render | none => "")

/-- The rest of `SAVEPOINT name`. -/
def parseSavepoint : Parser String := do
  return "SAVEPOINT " ++ (← parseIdentifier).render

/-- The rest of `RELEASE [SAVEPOINT] name`. -/
def parseRelease : Parser String := do
  let _ ← parseKeyword "SAVEPOINT"
  return "RELEASE SAVEPOINT " ++ (← parseIdentifier).render

/-- The values assigned by `SET`, separated by commas, in parentheses when
`parenthesized`. A value is a query when one starts there, else an expression; a
value that cannot be read is reported as a missing variable value at the token
where reading it stopped. -/
def parseSetValues (fuel : Nat) (parenthesized : Bool) : Parser (List Expr) := do
  if parenthesized then expectSym "("
  let values ← commaSeparated do
    if ← peekSubquery then return Expr.subquery (← parseQuery fuel)
    match ← attempt (parseExpr fuel) with
    | some e => return e
    | none => expected "variable value" (← peek)
  if parenthesized then expectSym ")"
  return values

/-- The scope keyword of a setting, if present. -/
def parseSetScope : Parser (Option String) :=
  parseOneOfKeywords ["SESSION", "LOCAL", "GLOBAL"]

/-- The scope of a setting as the text before its name. -/
def scopePrefix : Option String → String
  | some s => s ++ " "
  | none => ""

/-- One `[scope] name = value` of a list of settings, as its scope text and the rest.
A parenthesized name is not read here: where the dialect allows one, `SET` reads it
separately. -/
def parseSetAssignment (fuel : Nat) : Parser (String × String) := do
  let scope ← parseSetScope
  if ← parseWhen ((← dialect) == .generic) (consumeSym "(") then
    expected "Unparenthesized assignment" (← peek)
  let name ← parseObjectName
  if !(← parseEither (consumeSym "=") (parseKeyword "TO")) then
    expected "assignment operator" (← peek)
  let value ← parseExpr fuel
  return (scopePrefix scope, name.render ++ " = " ++ value.render)

/-- `ON` or `OFF` after a session parameter. -/
def parseOnOff : Parser String := do
  if ← parseKeyword "ON" then return "ON"
  if ← parseKeyword "OFF" then return "OFF"
  expected "ON or OFF" (← peek)

/-- Words separated by commas, each as written. -/
def parseWordList (what : String) : Parser (List String) :=
  commaSeparated do
    let t ← next
    match t.token with
    | .word _ _ => return t.token.text
    | _ => expected what t

/-- A session parameter set without an assignment operator: `STATISTICS topic ON`,
`IDENTITY_INSERT table ON`, `OFFSETS words ON`, or names followed by a value. -/
def parseSessionParam (fuel : Nat) : Parser String := do
  if ← parseKeyword "STATISTICS" then
    let topic ← match ← parseOneOfKeywords ["IO", "PROFILE", "TIME", "XML"] with
      | some t => pure t
      | none => expected "IO, PROFILE, TIME or XML" (← peek)
    return "STATISTICS " ++ topic ++ " " ++ (← parseOnOff)
  if ← parseKeyword "IDENTITY_INSERT" then
    let obj ← parseObjectName
    return "IDENTITY_INSERT " ++ obj.render ++ " " ++ (← parseOnOff)
  if ← parseKeyword "OFFSETS" then
    let words ← parseWordList "SQL keyword"
    return "OFFSETS " ++ commaList words ++ " " ++ (← parseOnOff)
  let names ← parseWordList "Session param name"
  return commaList names ++ " " ++ (← parseExpr fuel).render

/-- `ROLE name` or `ROLE NONE` after `SET` and its scope. -/
def parseSetRole : Parser String := do
  expectKeyword "ROLE"
  if ← parseKeyword "NONE" then return "NONE"
  return (← parseIdentifier).render

/-- The rest of a `SET` statement: a role, a time zone, the names of a character
set, the characteristics of transactions, the session's authorization, or
variables with their values. MySQL and the generic dialect also set several
variables at once, the generic dialect sets a parenthesized list of variables, and
SQL Server sets session parameters without an operator. -/
def parseSet (fuel : Nat) : Parser String := do
  let d ← dialect
  let hivevar ← parseKeyword "HIVEVAR"
  let scope ← if hivevar then pure none else parseSetScope
  if hivevar then expectSym ":"
  let hive := if hivevar then "HIVEVAR:" else ""
  let scopeText := scopePrefix scope
  if let some role ← maybeParse parseSetRole then
    return "SET " ++ scopeText ++ "ROLE " ++ role
  if ← parseEither (parseKeywords ["TIME", "ZONE"]) (parseKeyword "TIMEZONE") then
    if ← parseEither (consumeSym "=") (parseKeyword "TO") then
      return "SET " ++ scopeText ++ hive ++ "TIMEZONE = " ++
        commaList ((← parseSetValues fuel false).map Expr.render)
    return "SET " ++ (if scope == some "LOCAL" then "LOCAL " else "") ++ "TIME ZONE " ++
      (← parseExpr fuel).render
  if ← parseWhen (d == .mysql || d == .generic) (parseKeyword "NAMES") then
    if ← parseKeyword "DEFAULT" then return "SET NAMES DEFAULT"
    let charset ← parseIdentifier
    let collation ← if ← parseKeyword "COLLATE" then some <$> parseLiteralString else pure none
    return "SET NAMES " ++ charset.render ++
      (match collation with | some c => " COLLATE " ++ c | none => "")
  if ← parseKeyword "CHARACTERISTICS" then
    expectKeywords ["AS", "TRANSACTION"]
    return "SET SESSION CHARACTERISTICS AS TRANSACTION" ++ modesText (← parseTransactionModes)
  if ← parseKeyword "TRANSACTION" then
    if ← parseKeyword "SNAPSHOT" then
      return "SET TRANSACTION SNAPSHOT " ++ (← parseValue).render
    return "SET TRANSACTION" ++ modesText (← parseTransactionModes)
  if ← parseKeyword "AUTHORIZATION" then
    let who ← if ← parseKeyword "DEFAULT" then pure "DEFAULT" else pure (← parseIdentifier).render
    return "SET " ++ scopeText ++ "AUTHORIZATION " ++ who
  if d == .mysql || d == .generic then
    if scope.isSome then back
    if let some assignments ← maybeParse (commaSeparated (parseSetAssignment fuel)) then
      match assignments with
      | [(sc, a)] => return "SET " ++ sc ++ hive ++ a
      | _ => return "SET " ++ commaList (assignments.map fun (sc, a) => sc ++ a)
  if ← parseWhen (d == .generic) (consumeSym "(") then
    let vars ← commaSeparated parseIdentifier
    expectSym ")"
    if ← parseEither (consumeSym "=") (parseKeyword "TO") then
      let values ← parseSetValues fuel true
      return "SET (" ++ commaList (vars.map Ident.render) ++ ") = (" ++
        commaList (values.map Expr.render) ++ ")"
    expected "equals sign or TO" (← peek)
  let name ← parseObjectName
  if ← parseEither (consumeSym "=") (parseKeyword "TO") then
    return "SET " ++ scopeText ++ hive ++ name.render ++ " = " ++
      commaList ((← parseSetValues fuel false).map Expr.render)
  if d == .mssql then
    back
    return "SET " ++ (← parseSessionParam fuel)
  expected "equals sign or TO" (← peek)

/-- `LIKE 'pattern'`, `ILIKE 'pattern'` or `WHERE condition` after a `SHOW`, as the
text that follows it. -/
def parseShowFilter (fuel : Nat) : Parser String := do
  if ← parseKeyword "LIKE" then return " LIKE '" ++ escapeQuoted '\'' (← parseLiteralString) ++ "'"
  if ← parseKeyword "ILIKE" then return " ILIKE '" ++ escapeQuoted '\'' (← parseLiteralString) ++ "'"
  if ← parseKeyword "WHERE" then return " WHERE " ++ (← parseExpr fuel).render
  return ""

/-- `FROM` or `IN` a container after a `SHOW`, as the text that follows it. A
MySQL-style `FROM table FROM database` names the table inside the database. -/
def parseShowIn : Parser String := do
  let clause ← match ← parseOneOfKeywords ["FROM", "IN"] with
    | some c => pure c
    | none => return ""
  match ← parseOneOfKeywords ["ACCOUNT", "DATABASE", "SCHEMA", "TABLE", "VIEW"] with
  | some parent =>
    match ← maybeParse parseObjectName with
    | some n => return " " ++ clause ++ " " ++ parent ++ " " ++ n.render
    | none => return " " ++ clause ++ " " ++ parent
  | none =>
    let n ← parseObjectName
    if (← parseOneOfKeywords ["FROM", "IN"]).isSome then
      let db ← parseIdentifier
      return " " ++ clause ++ " " ++ renderIdents (db :: n.parts)
    return " " ++ clause ++ " " ++ n.render

/-- The container and filter of a `SHOW` listing. -/
def parseShowOptions (fuel : Nat) : Parser String := do
  let within ← parseShowIn
  return within ++ (← parseShowFilter fuel)

/-- The words of `SHOW name ...`, up to the end of the statement or an `=`. -/
def parseShowWords : Parser (List Ident) := do
  iterate (fun acc => do
    let t ← peek
    match t.token with
    | .eof | .sym "=" | .sym ";" => return none
    | .word v q =>
      advance
      return some (acc ++ [⟨v, q⟩])
    | _ =>
      advance
      return some acc) []

/-- The rest of a `SHOW` statement. -/
def parseShow (fuel : Nat) : Parser String := do
  let d ← dialect
  let terse ← parseKeyword "TERSE"
  let extended ← parseKeyword "EXTENDED"
  let full ← parseKeyword "FULL"
  let session ← parseKeyword "SESSION"
  let global ← parseKeyword "GLOBAL"
  let external ← parseKeyword "EXTERNAL"
  let terseText := if terse then "TERSE " else ""
  let mysqlLike := d == .mysql || d == .generic
  if (← parseOneOfKeywords ["COLUMNS", "FIELDS"]).isSome then
    return "SHOW " ++ (if extended then "EXTENDED " else "") ++ (if full then "FULL " else "") ++ "COLUMNS" ++
      (← parseShowOptions fuel)
  if ← parseKeyword "TABLES" then
    let history ← if external then pure false else parseKeyword "HISTORY"
    return "SHOW " ++ terseText ++ (if extended then "EXTENDED " else "") ++ (if full then "FULL " else "") ++
      (if external then "EXTERNAL " else "") ++ "TABLES" ++ (if history then " HISTORY" else "") ++
      (← parseShowOptions fuel)
  if ← parseKeywords ["MATERIALIZED", "VIEWS"] then
    return "SHOW " ++ terseText ++ "MATERIALIZED VIEWS" ++ (← parseShowOptions fuel)
  if ← parseKeyword "VIEWS" then return "SHOW " ++ terseText ++ "VIEWS" ++ (← parseShowOptions fuel)
  if ← parseKeyword "FUNCTIONS" then return "SHOW FUNCTIONS" ++ (← parseShowFilter fuel)
  if extended || full then failWith ("EXTENDED/FULL are not supported with this type of SHOW query")
  if ← parseKeyword "CREATE" then
    let kind ← expectOneOfKeywords ["TABLE", "TRIGGER", "FUNCTION", "PROCEDURE", "EVENT", "VIEW"]
    return "SHOW CREATE " ++ kind ++ " " ++ (← parseObjectName).render
  if ← parseKeyword "COLLATION" then return "SHOW COLLATION" ++ (← parseShowFilter fuel)
  let scopeText := (if global then "GLOBAL " else "") ++ (if session then "SESSION " else "")
  if ← parseWhen mysqlLike (parseKeyword "VARIABLES") then
    return "SHOW " ++ scopeText ++ "VARIABLES" ++ (← parseShowFilter fuel)
  if ← parseWhen mysqlLike (parseKeyword "STATUS") then
    return "SHOW " ++ scopeText ++ "STATUS" ++ (← parseShowFilter fuel)
  if ← parseKeyword "DATABASES" then
    let history ← parseKeyword "HISTORY"
    return "SHOW " ++ terseText ++ "DATABASES" ++ (if history then " HISTORY" else "") ++
      (← parseShowOptions fuel)
  if ← parseKeyword "SCHEMAS" then
    let history ← parseKeyword "HISTORY"
    return "SHOW " ++ terseText ++ "SCHEMAS" ++ (if history then " HISTORY" else "") ++
      (← parseShowOptions fuel)
  let words ← parseShowWords
  return "SHOW" ++ (if words.isEmpty then "" else " " ++ " ".intercalate (words.map Ident.render))

/-- The rest of `USE name`. -/
def parseUse : Parser String := do
  return "USE " ++ (← parseObjectName).render

/-- The rest of `CALL name[(arguments)]`. -/
def parseCall (fuel : Nat) : Parser String := do
  let name ← parseObjectName
  if ← peekSym "(" then
    let call ← parseFunction fuel name
    return "CALL " ++ call.render
  return "CALL " ++ name.render

/-- The rest of `DISCARD ALL | PLANS | SEQUENCES | TEMP`. -/
def parseDiscard : Parser String := do
  if ← parseKeyword "ALL" then return "DISCARD ALL"
  if ← parseKeyword "PLANS" then return "DISCARD PLANS"
  if ← parseKeyword "SEQUENCES" then return "DISCARD SEQUENCES"
  if ← parseEither (parseKeyword "TEMP") (parseKeyword "TEMPORARY") then return "DISCARD TEMP"
  expected "ALL, PLANS, SEQUENCES, TEMP or TEMPORARY after DISCARD" (← peek)

/-- The rest of `RESET ALL` or `RESET name`. -/
def parseReset : Parser String := do
  if ← parseKeyword "ALL" then return "RESET ALL"
  return "RESET " ++ (← parseObjectName).render

/-- The rest of `LISTEN channel`. -/
def parseListen : Parser String := do
  return "LISTEN " ++ (← parseIdentifier).render

/-- The rest of `UNLISTEN channel` or `UNLISTEN *`. -/
def parseUnlisten : Parser String := do
  if ← consumeSym "*" then return "UNLISTEN *"
  match ← maybeParse parseIdentifier with
  | some channel => return "UNLISTEN " ++ channel.render
  | none => expected "wildcard or identifier" (← peek)

/-- The rest of `NOTIFY channel [, 'payload']`. -/
def parseNotify : Parser String := do
  let channel ← parseIdentifier
  if ← consumeSym "," then
    return "NOTIFY " ++ channel.render ++ ", '" ++ (← parseLiteralString) ++ "'"
  return "NOTIFY " ++ channel.render

/-- The rest of `KILL [CONNECTION | QUERY | MUTATION] id`; only the generic dialect
kills mutations. -/
def parseKill : Parser String := do
  let modifier ← parseOneOfKeywords ["CONNECTION", "QUERY", "MUTATION"]
  let id ← parseLiteralUint
  if modifier == some "MUTATION" && (← dialect) != .generic then
    expected "Unsupported type for KILL, allowed: CONNECTION | QUERY" (← peek)
  return "KILL " ++ (match modifier with | some m => m ++ " " | none => "") ++ toString id

/-- The value of a pragma: a number, a quoted string or a placeholder. -/
def parsePragmaValue : Parser Value := do
  let v ← parseValue
  match v with
  | .singleQuoted _ | .doubleQuoted _ | .number _ | .placeholder _ => return v
  | _ =>
    back
    expected "number or string or ? placeholder" (← peek)

/-- The rest of `PRAGMA name`, `PRAGMA name(value)` or `PRAGMA name = value`. -/
def parsePragma : Parser String := do
  let name ← parseObjectName
  if ← consumeSym "(" then
    let v ← parsePragmaValue
    expectSym ")"
    return "PRAGMA " ++ name.render ++ "(" ++ v.render ++ ")"
  if ← consumeSym "=" then
    return "PRAGMA " ++ name.render ++ " = " ++ (← parsePragmaValue).render
  return "PRAGMA " ++ name.render

/-- The rest of `ATTACH [DATABASE] file AS schema`. -/
def parseAttach (fuel : Nat) : Parser String := do
  let database ← parseKeyword "DATABASE"
  let file ← parseExpr fuel
  expectKeyword "AS"
  let schema ← parseIdentifier
  return "ATTACH " ++ (if database then "DATABASE " else "") ++ file.render ++ " AS " ++ schema.render

/-- The rest of `DETACH [DATABASE] [IF EXISTS] name`. -/
def parseDetach : Parser String := do
  let database ← parseKeyword "DATABASE"
  let ifExists ← parseKeywords ["IF", "EXISTS"]
  let name ← parseIdentifier
  return "DETACH" ++ (if database then " DATABASE" else "") ++ (if ifExists then " IF EXISTS" else "") ++
    " " ++ name.render

/-- One table of `LOCK TABLES`: `name [[AS] alias] READ [LOCAL] | [LOW_PRIORITY] WRITE`. -/
def parseLockTable : Parser String := do
  let table ← parseIdentifier
  let aliasName ← parseOptionalAlias ["READ", "WRITE", "LOW_PRIORITY"]
  let lock ←
    if ← parseKeyword "READ" then
      pure (if ← parseKeyword "LOCAL" then "READ LOCAL" else "READ")
    else if ← parseKeyword "WRITE" then pure "WRITE"
    else if ← parseKeywords ["LOW_PRIORITY", "WRITE"] then pure "LOW_PRIORITY WRITE"
    else expected "an lock type in LOCK TABLES" (← peek)
  return table.render ++ (match aliasName with | some a => " AS " ++ a.render | none => "") ++ " " ++ lock

/-- The rest of `LOCK TABLES` after its two keywords. -/
def parseLockTables : Parser String := do
  return "LOCK TABLES " ++ commaList (← commaSeparated parseLockTable)

end Parser

end SqlScope.Sql
