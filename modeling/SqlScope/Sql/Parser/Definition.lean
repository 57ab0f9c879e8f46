import SqlScope.Sql.Parser.Table

/-!
# Statements that define tables, views, indexes and schemas

`CREATE`, `ALTER`, `DROP` and `TRUNCATE` are read in full and kept as their
canonical text: no rule looks inside them, but a text that is not one of them
must be refused where the parser stops, and a statement that is one prints in
the canonical form.

The canonical forms follow a few fixed choices: a column is `name TYPE options`,
a constraint of a table is written with a space before its column list, the
columns of an index follow the table name directly and are separated by bare
commas (`ON t(a,b)`), the columns of a table come before its constraints, and an
optional word that changes nothing (`COLUMN` after `RENAME`) is always written.
-/

namespace SqlScope.Sql

namespace Parser

/-- The MySQL view parameters `ALGORITHM = ...`, `DEFINER = user` and
`SQL SECURITY ...` that may stand between `CREATE` and the object, as printed
(each followed by a space); read before any kind of object. -/
def parseCreateViewParams : Parser String := do
  let d ← dialect
  let algorithm ←
    if ← parseKeyword "ALGORITHM" then
      expectSym "="
      pure ("ALGORITHM = " ++ (← expectOneOfKeywords ["UNDEFINED", "MERGE", "TEMPTABLE"]) ++ " ")
    else pure ""
  let definer ←
    if ← parseKeyword "DEFINER" then
      expectSym "="
      let name ← parseObjectName
      if ← parseWhen ((d == .mysql || d == .generic) && name.parts.length == 1) (consumeSym "@") then
        pure ("DEFINER = " ++ name.render ++ "@" ++ (← parseIdentifier).render ++ " ")
      else pure ("DEFINER = " ++ name.render ++ " ")
    else pure ""
  let security ←
    if ← parseKeywords ["SQL", "SECURITY"] then
      pure ("SQL SECURITY " ++ (← expectOneOfKeywords ["DEFINER", "INVOKER"]) ++ " ")
    else pure ""
  return algorithm ++ definer ++ security

/-- The rest of `CREATE ... VIEW name [(columns)] [options] AS query`. `IF NOT EXISTS`
may stand before or after the name and is printed where it stood. -/
def parseCreateView (fuel : Nat) (orAlter orReplace temporary : Bool) (params : String) :
    Parser String := do
  let d ← dialect
  let secure ← parseKeyword "SECURE"
  let materialized ← parseKeyword "MATERIALIZED"
  expectKeyword "VIEW"
  let ifNotExistsFirst ← parseKeywords ["IF", "NOT", "EXISTS"]
  let name ← parseObjectName
  let ifNotExistsAfter ←
    if ifNotExistsFirst then pure false else parseKeywords ["IF", "NOT", "EXISTS"]
  let columns ← do
    if !(← consumeSym "(") then pure []
    else if ← consumeSym ")" then pure []
    else
      let cols ← commaSeparated do
        let c ← parseIdentifier
        let opts ← iterate (fun acc => do
          match ← parseColumnOption fuel with
          | some o => return some (acc ++ [o])
          | none => return none) []
        pure (c.render ++ (if opts.isEmpty then "" else " " ++ commaList opts))
      expectSym ")"
      pure cols
  let withOptions ← parseOptionList "WITH" fuel
  let clusterBy ←
    if ← parseKeyword "CLUSTER" then
      expectKeyword "BY"
      pure (← parseColumnList false)
    else pure []
  let bracketOptions ←
    if ← parseWhen (d == .generic) (peekKeyword "OPTIONS") then parseOptionList "OPTIONS" fuel
    else pure []
  let target ← if ← parseWhen (d == .generic) (parseKeyword "TO") then some <$> parseObjectName else pure none
  let comment ←
    if ← parseWhen (d == .generic) (parseKeyword "COMMENT") then
      expectSym "="
      some <$> parseCommentValue
    else pure none
  expectKeyword "AS"
  let q ← parseQuery fuel
  let withNoBinding ← parseWhen (d == .generic) (parseKeywords ["WITH", "NO", "SCHEMA", "BINDING"])
  return "CREATE " ++ (if orAlter then "OR ALTER " else "") ++ (if orReplace then "OR REPLACE " else "") ++
    params ++ (if secure then "SECURE " else "") ++ (if materialized then "MATERIALIZED " else "") ++
    (if temporary then "TEMPORARY " else "") ++ "VIEW " ++
    (if ifNotExistsFirst then "IF NOT EXISTS " ++ name.render
     else if ifNotExistsAfter then name.render ++ " IF NOT EXISTS" else name.render) ++
    (match target with | some t => " TO " ++ t.render | none => "") ++
    (if columns.isEmpty then "" else " (" ++ commaList columns ++ ")") ++
    (if bracketOptions.isEmpty && !withOptions.isEmpty then " WITH (" ++ commaList withOptions ++ ")" else "") ++
    (match comment with | some c => " COMMENT = '" ++ escapeQuoted '\'' c ++ "'" | none => "") ++
    (if clusterBy.isEmpty then "" else " CLUSTER BY (" ++ commaList (clusterBy.map Ident.render) ++ ")") ++
    (if bracketOptions.isEmpty then "" else " OPTIONS(" ++ commaList bracketOptions ++ ")") ++
    " AS " ++ q.render ++ (if withNoBinding then " WITH NO SCHEMA BINDING" else "")

/-- The rest of `CREATE [UNIQUE] INDEX`. The name may be left out when `ON`
follows directly. -/
def parseCreateIndex (fuel : Nat) (unique : Bool) : Parser String := do
  let concurrently ← parseKeyword "CONCURRENTLY"
  let ifNotExists ← parseKeywords ["IF", "NOT", "EXISTS"]
  let name ←
    if ← parseEither (pure ifNotExists) (not <$> parseKeyword "ON") then
      let n ← parseObjectName
      expectKeyword "ON"
      pure (some n)
    else pure none
  let table ← parseObjectName
  let method ← if ← parseKeyword "USING" then some <$> parseIndexMethod else pure none
  expectSym "("
  let columns ← commaSeparated (parseIndexColumn fuel)
  expectSym ")"
  let included ←
    if ← parseKeyword "INCLUDE" then
      expectSym "("
      let cols ← commaSeparated parseIdentifier
      expectSym ")"
      pure cols
    else pure []
  let nullsDistinct ←
    if ← parseKeyword "NULLS" then
      let negated ← parseKeyword "NOT"
      expectKeyword "DISTINCT"
      pure (some (!negated))
    else pure none
  let predicate ← if ← parseKeyword "WHERE" then some <$> parseExpr fuel else pure none
  return "CREATE " ++ (if unique then "UNIQUE " else "") ++ "INDEX " ++
    (if concurrently then "CONCURRENTLY " else "") ++ (if ifNotExists then "IF NOT EXISTS " else "") ++
    (match name with | some n => n.render ++ " " | none => "") ++ "ON " ++ table.render ++
    (match method with | some m => " USING " ++ m ++ " " | none => "") ++
    "(" ++ ",".intercalate columns ++ ")" ++
    (if included.isEmpty then "" else " INCLUDE (" ++ ",".intercalate (included.map Ident.render) ++ ")") ++
    (match nullsDistinct with
     | some true => " NULLS DISTINCT"
     | some false => " NULLS NOT DISTINCT"
     | none => "") ++
    (match predicate with | some p => " WHERE " ++ p.render | none => "")

/-- The rest of `CREATE SCHEMA`: a name, an authorization, or both. -/
def parseCreateSchema : Parser String := do
  let ifNotExists ← parseKeywords ["IF", "NOT", "EXISTS"]
  let name ←
    if ← parseKeyword "AUTHORIZATION" then pure ("AUTHORIZATION " ++ (← parseIdentifier).render)
    else
      let n ← parseObjectName
      if ← parseKeyword "AUTHORIZATION" then
        pure (n.render ++ " AUTHORIZATION " ++ (← parseIdentifier).render)
      else pure n.render
  return "CREATE SCHEMA " ++ (if ifNotExists then "IF NOT EXISTS " else "") ++ name

/-- The rest of `CREATE DATABASE`. -/
def parseCreateDatabase : Parser String := do
  let ifNotExists ← parseKeywords ["IF", "NOT", "EXISTS"]
  let name ← parseObjectName
  return "CREATE DATABASE " ++ (if ifNotExists then "IF NOT EXISTS " else "") ++ name.render

/-- `FIRST` or `AFTER column` after a column definition, where the dialect has it. -/
def parseColumnPosition : Parser String := do
  let d ← dialect
  if d != .mysql && d != .generic then return ""
  if ← parseKeyword "FIRST" then return " FIRST"
  if ← parseKeyword "AFTER" then return " AFTER " ++ (← parseIdentifier).render
  return ""

/-- The new type of a column after `TYPE` or `SET DATA TYPE`, with a `USING`
conversion where the dialect has one. -/
def parseNewColumnType (fuel : Nat) (hadSet : Bool) : Parser String := do
  let ty ← parseDataType
  let d ← dialect
  let conversion ←
    if ← parseWhen (d == .postgres || d == .generic) (parseKeyword "USING") then
      pure (" USING " ++ (← parseExpr fuel).render)
    else pure ""
  return (if hadSet then "SET DATA " else "") ++ "TYPE " ++ ty.type.text ++ conversion

/-- A column definition with its position, for `CHANGE` and `MODIFY`. -/
def parseTypedColumnRest (fuel : Nat) : Parser String := do
  let ty ← parseDataType
  let opts ← parseColumnOptions fuel
  let position ← parseColumnPosition
  return ty.type.text ++ String.join (opts.map (" " ++ ·)) ++ position

/-- One operation of `ALTER TABLE`, as text. -/
def parseAlterTableOperation (fuel : Nat) : Parser String := do
  let d ← dialect
  if ← parseKeyword "ADD" then
    match ← parseTableConstraint fuel with
    | some c =>
      let notValid ← parseKeywords ["NOT", "VALID"]
      return "ADD " ++ c ++ (if notValid then " NOT VALID" else "")
    | none =>
      let ifNotExistsFirst ← parseKeywords ["IF", "NOT", "EXISTS"]
      let column ← parseKeyword "COLUMN"
      let ifNotExists ←
        if d == .postgres || d == .generic then
          parseEither (parseKeywords ["IF", "NOT", "EXISTS"]) (pure ifNotExistsFirst)
        else pure false
      let colDef ← parseColumnDef fuel
      let position ← parseColumnPosition
      return "ADD" ++ (if column then " COLUMN" else "") ++ (if ifNotExists then " IF NOT EXISTS" else "") ++
        " " ++ colDef.render ++ position
  if ← parseKeyword "RENAME" then
    if ← parseWhen (d == .postgres) (parseKeyword "CONSTRAINT") then
      let old ← parseIdentifier
      expectKeyword "TO"
      return "RENAME CONSTRAINT " ++ old.render ++ " TO " ++ (← parseIdentifier).render
    if ← parseKeyword "TO" then return "RENAME TO " ++ (← parseObjectName).render
    if ← parseKeyword "AS" then return "RENAME AS " ++ (← parseObjectName).render
    let _ ← parseKeyword "COLUMN"
    let old ← parseIdentifier
    expectKeyword "TO"
    return "RENAME COLUMN " ++ old.render ++ " TO " ++ (← parseIdentifier).render
  if ← parseKeyword "DROP" then
    if ← parseKeyword "CONSTRAINT" then
      let ifExists ← parseKeywords ["IF", "EXISTS"]
      let name ← parseIdentifier
      return "DROP CONSTRAINT " ++ (if ifExists then "IF EXISTS " else "") ++ name.render ++
        (← parseDropBehavior)
    if ← parseKeywords ["PRIMARY", "KEY"] then return "DROP PRIMARY KEY" ++ (← parseDropBehavior)
    let column ← parseKeyword "COLUMN"
    let ifExists ← parseKeywords ["IF", "EXISTS"]
    let name ← parseIdentifier
    return "DROP " ++ (if column then "COLUMN " else "") ++ (if ifExists then "IF EXISTS " else "") ++
      name.render ++ (← parseDropBehavior)
  if ← parseKeyword "CHANGE" then
    let _ ← parseKeyword "COLUMN"
    let old ← parseIdentifier
    let new ← parseIdentifier
    return "CHANGE COLUMN " ++ old.render ++ " " ++ new.render ++ " " ++ (← parseTypedColumnRest fuel)
  if ← parseKeyword "MODIFY" then
    let _ ← parseKeyword "COLUMN"
    let name ← parseIdentifier
    return "MODIFY COLUMN " ++ name.render ++ " " ++ (← parseTypedColumnRest fuel)
  if ← parseKeyword "ALTER" then
    let _ ← parseKeyword "COLUMN"
    let name ← parseIdentifier
    let op ←
      if ← parseKeywords ["SET", "NOT", "NULL"] then pure "SET NOT NULL"
      else if ← parseKeywords ["DROP", "NOT", "NULL"] then pure "DROP NOT NULL"
      else if ← parseKeywords ["SET", "DEFAULT"] then pure ("SET DEFAULT " ++ (← parseExpr fuel).render)
      else if ← parseKeywords ["DROP", "DEFAULT"] then pure "DROP DEFAULT"
      else if ← parseKeywords ["SET", "DATA", "TYPE"] then parseNewColumnType fuel true
      else if ← parseKeyword "TYPE" then parseNewColumnType fuel false
      else if d == .postgres then
        expected "SET/DROP NOT NULL, SET DEFAULT, or SET DATA TYPE after ALTER COLUMN" (← peek)
      else expected "SET/DROP NOT NULL, SET DEFAULT, SET DATA TYPE after ALTER COLUMN" (← peek)
    return "ALTER COLUMN " ++ name.render ++ " " ++ op
  expected "ADD, RENAME, PARTITION, SWAP, REFRESH, or SET TBLPROPERTIES after ALTER TABLE" (← peek)

/-- The rest of `ALTER TABLE`: `[IF EXISTS] [ONLY] name` and its operations. -/
def parseAlterTable (fuel : Nat) : Parser String := do
  let ifExists ← parseKeywords ["IF", "EXISTS"]
  let only ← parseKeyword "ONLY"
  let name ← parseObjectName
  let ops ← commaSeparated (parseAlterTableOperation fuel)
  return "ALTER TABLE " ++ (if ifExists then "IF EXISTS " else "") ++ (if only then "ONLY " else "") ++
    name.render ++ " " ++ commaList ops

/-- The rest of a `TRUNCATE` statement, as its canonical text. -/
def parseTruncate : Parser Statement := do
  let d ← dialect
  let table ← parseKeyword "TABLE"
  let names ← commaSeparated do
    let only ← parseKeyword "ONLY"
    let n ← parseObjectName
    return (if only then "ONLY " else "") ++ n.render
  let (identity, cascade) ←
    if d == .postgres || d == .generic then
      let identity ← do
        if ← parseKeywords ["RESTART", "IDENTITY"] then pure " RESTART IDENTITY"
        else if ← parseKeywords ["CONTINUE", "IDENTITY"] then pure " CONTINUE IDENTITY" else pure ""
      let cascade ← parseDropBehavior
      pure (identity, cascade)
    else pure ("", "")
  return .other ("TRUNCATE " ++ (if table then "TABLE " else "") ++ commaList names ++ identity ++ cascade)

end Parser

end SqlScope.Sql
