import SqlScope.Sql.Parser.Privilege

/-!
# Statements

`parseSql` reads a sequence of statements separated by semicolons. Queries,
`INSERT`, `UPDATE` and `DELETE` become syntax trees; `MERGE`, `EXPLAIN` and the
statements of the two neighbouring modules (definitions of tables and the like,
transactions and settings) are read in full but kept as their canonical text, since
no rule looks inside them. Each statement uses one level of the recursion budget,
which starts at 50.
-/

namespace SqlScope.Sql

namespace Parser

/-- The formats `EXPLAIN ... FORMAT` accepts. -/
def explainFormats : List String := ["TEXT", "GRAPHVIZ", "JSON", "TRADITIONAL", "TREE"]

/-- The options of `EXPLAIN (name [value], ...)`, after the opening parenthesis. -/
def parseUtilityOptions (fuel : Nat) : Parser (List String) := do
  let opts ← commaSeparated do
    let name ← parseIdentifier
    if (← peekSym ",") || (← peekSym ")") then return name.render
    return name.render ++ " " ++ (← parseExpr fuel).render
  expectSym ")"
  return opts

/-- The words between `EXPLAIN` and the explained statement, as the text that
precedes the statement: `QUERY PLAN`, `ESTIMATE`, or `ANALYZE`, `VERBOSE` and a
`FORMAT`; for `EXPLAIN` alone, where the dialect has them, options in
parentheses. -/
def parseExplainFlags (fuel : Nat) (isExplain : Bool) : Parser String := do
  let d ← dialect
  if isExplain && (d == .postgres || d == .generic) && (← peekSym "(") then
    advance
    return "(" ++ commaList (← parseUtilityOptions fuel) ++ ") "
  if ← parseKeywords ["QUERY", "PLAN"] then return "QUERY PLAN "
  if ← parseKeyword "ESTIMATE" then return "ESTIMATE "
  let analyze ← parseKeyword "ANALYZE"
  let verbose ← parseKeyword "VERBOSE"
  let format ←
    if ← parseKeyword "FORMAT" then
      let assigned ← consumeSym "="
      let t ← next
      match t.token.keyword with
      | some f =>
        if explainFormats.contains f then pure ((if assigned then "FORMAT = " else "FORMAT ") ++ f ++ " ")
        else expected "fileformat" t
      | none => expected "fileformat" t
    else pure ""
  return (if analyze then "ANALYZE " else "") ++ (if verbose then "VERBOSE " else "") ++ format

/-- One statement, using one level of the recursion budget. -/
def parseStatement : Nat → Parser Statement
  | 0 => throw .recursion
  | fuel + 1 => nested do
    let d ← dialect
    if ← parseWhen (d == .mysql) (parseKeywords ["LOCK", "TABLES"]) then
      return .other (← parseLockTables)
    if ← parseWhen (d == .mysql) (parseKeywords ["UNLOCK", "TABLES"]) then
      return .other "UNLOCK TABLES"
    let t ← next
    match t.token with
    | .sym "(" =>
      back
      return .query (← parseQuery fuel)
    | _ =>
      match t.token.keyword with
      | some "SELECT" | some "WITH" | some "VALUES" | some "FROM" =>
        back
        return .query (← parseQuery fuel)
      | some "INSERT" => parseInsert fuel false
      | some "REPLACE" =>
        if d == .sqlite then
          back
          parseInsert fuel false
        else if d == .mysql || d == .generic then parseInsert fuel true
        else failAt "Unsupported statement REPLACE" (← peek)
      | some "UPDATE" => parseUpdate fuel
      | some "DELETE" => parseDelete fuel
      | some "CREATE" => parseCreate fuel
      | some "ALTER" => parseAlter fuel
      | some "DROP" => parseDrop fuel
      | some "TRUNCATE" => parseTruncate
      | some "MERGE" => parseMerge fuel
      | some "BEGIN" => return .other (← parseBegin)
      | some "START" => return .other (← parseStartTransaction)
      | some "COMMIT" => return .other (← parseCommit)
      | some "END" => return .other (← parseEnd)
      | some "ROLLBACK" => return .other (← parseRollback)
      | some "SAVEPOINT" => return .other (← parseSavepoint)
      | some "RELEASE" => return .other (← parseRelease)
      | some "SET" => return .other (← parseSet fuel)
      | some "SHOW" => return .other (← parseShow fuel)
      | some "USE" => return .other (← parseUse)
      | some "CALL" => return .other (← parseCall fuel)
      | some "GRANT" => return .other (← parseGrant)
      | some "REVOKE" => return .other (← parseRevoke)
      | some "DISCARD" => return .other (← parseDiscard)
      | some "RESET" => return .other (← parseReset)
      | some "LISTEN" => if d == .postgres then return .other (← parseListen) else expected "an SQL statement" t
      | some "UNLISTEN" =>
        if d == .postgres then return .other (← parseUnlisten) else expected "an SQL statement" t
      | some "NOTIFY" => if d == .postgres then return .other (← parseNotify) else expected "an SQL statement" t
      | some "COMMENT" =>
        if d == .postgres || d == .generic then return .other (← parseComment) else expected "an SQL statement" t
      | some "KILL" => return .other (← parseKill)
      | some "PRAGMA" => return .other (← parsePragma)
      | some "ATTACH" => return .other (← parseAttach fuel)
      | some "DETACH" => if d == .generic then return .other (← parseDetach) else expected "an SQL statement" t
      | some "EXPLAIN" | some "DESCRIBE" | some "DESC" =>
        let word := t.token.keyword.getD ""
        let flags ← parseExplainFlags fuel (word == "EXPLAIN")
        let innerWord := (← peekToken).keyword
        match ← maybeParse (parseStatement fuel) with
        | some inner =>
          if innerWord == some "EXPLAIN" || innerWord == some "DESCRIBE" || innerWord == some "DESC" then
            failWith ("Explain must be root of the plan")
          return .other (word ++ " " ++ flags ++ inner.render)
        | none =>
          let format ← parseOneOfKeywords ["EXTENDED", "FORMATTED"]
          let table ← parseKeyword "TABLE"
          let name ← parseObjectName
          return .other (word ++ " " ++ (match format with | some f => f ++ " " | none => "") ++
            (if table then "TABLE " else "") ++ name.render)
      | _ => expected "an SQL statement" t

/-- Statements separated by semicolons, up to the end of the input. Empty
statements between semicolons are skipped. -/
def parseStatements (fuel : Nat) : Parser (List Statement) := do
  let (stmts, _) ← iterate (fun (acc : List Statement × Bool) => do
    let semicolons ← iterate (fun (k : Nat) => do
      if ← consumeSym ";" then return some (k + 1) else return none) 0
    let expectingDelimiter := acc.2 && semicolons == 0
    let t ← peek
    if t.token == .eof then return none
    if expectingDelimiter then
      if t.token.isKeyword "END" then return none
      expected "end of statement" t
    let s ← parseStatement fuel
    return some (s :: acc.1, true)) ([], false)
  return stmts.reverse

end Parser

/-- The statements of a SQL text in a dialect, or the first error. -/
def parseSql (d : Dialect) (sql : String) : Except ParseError (List Statement) := do
  let toks ← match tokenize d sql with
    | .ok ts => pure ts
    | .error msg => throw (.message msg 0)
  let env : ParseEnv := { dialect := d, tokens := toks.toArray, budget := 50 }
  let fuel := 64 * (toks.length + 8)
  (Parser.parseStatements fuel |>.run env).run' 0

end SqlScope.Sql
