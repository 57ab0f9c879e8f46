import SqlScope.Sql.Parser.Definition

/-!
# Statements about the objects of a catalog

`CREATE`, `ALTER` and `DROP` for every kind of object other than the table
pieces of `Definition`: sequences, extensions, types, domains, roles and row
policies, the renaming of indexes and views, the operations on schemas, and the
`DROP` forms for functions, procedures, triggers and the like, with `COMMENT ON`
beside them. The three dispatchers here pick the kind of object after the first
keyword and leave the rest to the parser of that kind.

Like the definitions of tables, each statement is kept as its canonical text.
Where the grammar of a kind is written for a few dialects only, the others
refuse it with the message the dialect gives.
-/

namespace SqlScope.Sql

namespace Parser

/-- The owner of an object after `OWNER TO` or a grantee of a policy: one of the
session users, or a name. -/
def parseOwner : Parser String := do
  match ← parseOneOfKeywords ["CURRENT_USER", "CURRENT_ROLE", "SESSION_USER"] with
  | some k => return k
  | none =>
    match ← tryParse parseIdentifier with
    | .ok i => return i.render
    | .error e =>
      failWith ("Expected: CURRENT_USER, CURRENT_ROLE, SESSION_USER or identifier after OWNER TO. " ++ e.text)

/-- `CASCADE` or `RESTRICT` after the objects of a `DROP`, as printed after a space. -/
def parseOptionalCascade : Parser String := do
  match ← parseOneOfKeywords ["CASCADE", "RESTRICT"] with
  | some k => return " " ++ k
  | none => return ""

/-- A number or a placeholder, as its own text: the value of `CONNECTION LIMIT`. -/
def parseNumberValue : Parser String := do
  let v ← parseValue
  match v with
  | .number _ | .placeholder _ => return v.render
  | _ =>
    back
    expected "literal number" (← peek)

/-- One option of a role: a flag such as `LOGIN` or `NOSUPERUSER`,
`CONNECTION LIMIT n`, `PASSWORD value`, or `VALID UNTIL value`. -/
def parseRoleOption : Parser String := do
  let flags := ["BYPASSRLS", "NOBYPASSRLS", "CREATEDB", "NOCREATEDB", "CREATEROLE", "NOCREATEROLE",
    "INHERIT", "NOINHERIT", "LOGIN", "NOLOGIN", "REPLICATION", "NOREPLICATION", "SUPERUSER", "NOSUPERUSER"]
  match ← parseOneOfKeywords (flags ++ ["CONNECTION", "PASSWORD", "VALID"]) with
  | some "CONNECTION" =>
    expectKeyword "LIMIT"
    return "CONNECTION LIMIT " ++ (← parseNumberValue)
  | some "PASSWORD" =>
    if ← parseKeyword "NULL" then return "PASSWORD NULL"
    return "PASSWORD " ++ (← parseValue).render
  | some "VALID" =>
    expectKeyword "UNTIL"
    return "VALID UNTIL " ++ (← parseValue).render
  | some k => return k
  | none => expected "option" (← peek)

/-- The rest of `ALTER ROLE` in PostgreSQL: a rename, `SET` or `RESET` of a
setting (optionally `IN DATABASE db`), or a list of role options. -/
def parseAlterRolePostgres (fuel : Nat) : Parser String := do
  let name ← parseIdentifier
  let inDatabase ←
    if ← parseKeywords ["IN", "DATABASE"] then
      pure ((·.map fun n => "IN DATABASE " ++ n.render ++ " ") (← attempt parseObjectName))
    else pure none
  let db := inDatabase.getD ""
  let op ←
    if ← parseKeyword "RENAME" then
      if ← parseKeyword "TO" then pure ("RENAME TO " ++ (← parseIdentifier).render)
      else expected "TO after RENAME" (← peek)
    else if ← parseKeyword "SET" then
      let config ← parseObjectName
      if ← parseKeywords ["FROM", "CURRENT"] then pure (db ++ "SET " ++ config.render ++ " FROM CURRENT")
      else if ← parseEither (consumeSym "=") (parseKeyword "TO") then
        if ← parseKeyword "DEFAULT" then pure (db ++ "SET " ++ config.render ++ " TO DEFAULT")
        else
          match ← attempt (parseExpr fuel) with
          | some e => pure (db ++ "SET " ++ config.render ++ " TO " ++ e.render)
          | none => expected "config value" (← peek)
      else expected "'TO' or '=' or 'FROM CURRENT'" (← peek)
    else if ← parseKeyword "RESET" then
      if ← parseKeyword "ALL" then pure (db ++ "RESET ALL")
      else pure (db ++ "RESET " ++ (← parseObjectName).render)
    else
      let _ ← parseKeyword "WITH"
      let opts ← iterate (fun acc => do
        match ← maybeParse parseRoleOption with
        | some o => return some (acc ++ [o])
        | none => return none) []
      if opts.isEmpty then expected "option" (← peek)
      pure ("WITH " ++ " ".intercalate opts)
  return "ALTER ROLE " ++ name.render ++ " " ++ op

/-- The rest of `ALTER ROLE` in SQL Server: `ADD MEMBER`, `DROP MEMBER` or
`WITH NAME = new`. -/
def parseAlterRoleMssql : Parser String := do
  let name ← parseIdentifier
  let op ←
    if ← parseKeywords ["ADD", "MEMBER"] then pure ("ADD MEMBER " ++ (← parseIdentifier).render)
    else if ← parseKeywords ["DROP", "MEMBER"] then pure ("DROP MEMBER " ++ (← parseIdentifier).render)
    else if ← parseKeywords ["WITH", "NAME"] then
      if ← consumeSym "=" then pure ("RENAME TO " ++ (← parseIdentifier).render)
      else expected "= after WITH NAME " (← peek)
    else expected "'ADD' or 'DROP' or 'WITH NAME'" (← peek)
  return "ALTER ROLE " ++ name.render ++ " " ++ op

/-- The rest of `ALTER VIEW name [(columns)] [WITH (options)] AS query`. -/
def parseAlterView (fuel : Nat) : Parser String := do
  let name ← parseObjectName
  let columns ← parseColumnList false
  let options ← parseOptionList "WITH" fuel
  expectKeyword "AS"
  let q ← parseQuery fuel
  return "ALTER VIEW " ++ name.render ++
    (if options.isEmpty then "" else " WITH (" ++ commaList options ++ ")") ++
    (if columns.isEmpty then "" else " (" ++ commaList (columns.map Ident.render) ++ ")") ++
    " AS " ++ q.render

/-- The rest of `ALTER TYPE`: a rename, a new enumeration value, or a renamed value. -/
def parseAlterType : Parser String := do
  let name ← parseObjectName
  let op ←
    if ← parseKeywords ["RENAME", "TO"] then pure ("RENAME TO " ++ (← parseIdentifier).render)
    else if ← parseKeywords ["ADD", "VALUE"] then
      let ifNotExists ← parseKeywords ["IF", "NOT", "EXISTS"]
      let value ← parseIdentifier
      let position ←
        if ← parseKeyword "BEFORE" then pure (" BEFORE " ++ (← parseIdentifier).render)
        else if ← parseKeyword "AFTER" then pure (" AFTER " ++ (← parseIdentifier).render)
        else pure ""
      pure ("ADD VALUE" ++ (if ifNotExists then " IF NOT EXISTS" else "") ++ " " ++ value.render ++ position)
    else if ← parseKeywords ["RENAME", "VALUE"] then
      let old ← parseIdentifier
      expectKeyword "TO"
      pure ("RENAME VALUE " ++ old.render ++ " TO " ++ (← parseIdentifier).render)
    else expected "\x7bRENAME TO | \x7b RENAME | ADD \x7d VALUE\x7d" (← peek)
  return "ALTER TYPE " ++ name.render ++ " " ++ op

/-- The rest of `ALTER SCHEMA [IF EXISTS] name` and its one operation. -/
def parseAlterSchema (fuel : Nat) : Parser String := do
  let ifExists ← parseKeywords ["IF", "EXISTS"]
  let name ← parseObjectName
  let op ←
    if ← parseKeywords ["SET", "OPTIONS"] then
      back
      pure ("SET OPTIONS (" ++ commaList (← parseOptionList "OPTIONS" fuel) ++ ")")
    else if ← parseKeywords ["SET", "DEFAULT", "COLLATE"] then
      pure ("SET DEFAULT COLLATE " ++ (← parseExpr fuel).render)
    else if ← parseKeywords ["ADD", "REPLICA"] then
      let replica ← parseIdentifier
      let options ←
        if ← peekKeyword "OPTIONS" then
          pure (" OPTIONS (" ++ commaList (← parseOptionList "OPTIONS" fuel) ++ ")")
        else pure ""
      pure ("ADD REPLICA " ++ replica.render ++ options)
    else if ← parseKeywords ["DROP", "REPLICA"] then pure ("DROP REPLICA " ++ (← parseIdentifier).render)
    else if ← parseKeywords ["RENAME", "TO"] then pure ("RENAME TO " ++ (← parseObjectName).render)
    else if ← parseKeywords ["OWNER", "TO"] then pure ("OWNER TO " ++ (← parseOwner))
    else expected "ALTER SCHEMA operation" (← peek)
  return "ALTER SCHEMA " ++ (if ifExists then "IF EXISTS " else "") ++ name.render ++ " " ++ op

/-- The parenthesised condition of a policy after `USING` or `WITH CHECK`. -/
def parsePolicyCondition (fuel : Nat) : Parser String := do
  return "(" ++ (← parenthesized (parseExpr fuel)).render ++ ")"

/-- `TO owners`, `USING (condition)` and `WITH CHECK (condition)` of a policy, each
printed after a space. -/
def parsePolicyClauses (fuel : Nat) : Parser String := do
  let grantees ←
    if ← parseKeyword "TO" then pure (" TO " ++ commaList (← commaSeparated parseOwner)) else pure ""
  let usingPart ←
    if ← parseKeyword "USING" then pure (" USING " ++ (← parsePolicyCondition fuel)) else pure ""
  let check ←
    if ← parseKeywords ["WITH", "CHECK"] then pure (" WITH CHECK " ++ (← parsePolicyCondition fuel))
    else pure ""
  return grantees ++ usingPart ++ check

/-- The rest of `ALTER POLICY name ON table`: a rename, or new grantees and conditions. -/
def parseAlterPolicy (fuel : Nat) : Parser String := do
  let name ← parseIdentifier
  expectKeyword "ON"
  let table ← parseObjectName
  let head := "ALTER POLICY " ++ name.render ++ " ON " ++ table.render
  if ← parseKeyword "RENAME" then
    expectKeyword "TO"
    return head ++ " RENAME TO " ++ (← parseIdentifier).render
  return head ++ (← parsePolicyClauses fuel)

/-- The rest of an `ALTER` statement: the kind of object, then its own grammar. -/
def parseAlter (fuel : Nat) : Parser Statement := do
  let d ← dialect
  let kindTok ← peek
  let kind ← expectOneOfKeywords
    ["VIEW", "TYPE", "TABLE", "INDEX", "ROLE", "POLICY", "CONNECTOR", "ICEBERG", "SCHEMA", "USER", "OPERATOR"]
  match kind with
  | "TABLE" => return .other (← parseAlterTable fuel)
  | "VIEW" => return .other (← parseAlterView fuel)
  | "TYPE" => return .other (← parseAlterType)
  | "SCHEMA" => return .other (← parseAlterSchema fuel)
  | "POLICY" => return .other (← parseAlterPolicy fuel)
  | "INDEX" =>
    let name ← parseObjectName
    if ← parseKeyword "RENAME" then
      if ← parseKeyword "TO" then
        return .other ("ALTER INDEX " ++ name.render ++ " RENAME TO " ++ (← parseObjectName).render)
      expected "TO after RENAME" (← peek)
    expected "RENAME after ALTER INDEX" (← peek)
  | "ROLE" =>
    if d == .postgres then return .other (← parseAlterRolePostgres fuel)
    if d == .mssql then return .other (← parseAlterRoleMssql)
    failWith "ALTER ROLE is only support for PostgreSqlDialect, MsSqlDialect"
  | _ => failAt ("ALTER " ++ kind ++ " is not supported") kindTok

/-- The object types `DROP` accepts with a list of names, by their keywords. -/
def dropObjectTypes : List (List String) :=
  [["TABLE"], ["VIEW"], ["MATERIALIZED", "VIEW"], ["INDEX"], ["ROLE"], ["SCHEMA"], ["DATABASE"],
   ["SEQUENCE"], ["STAGE"], ["TYPE"], ["USER"], ["STREAM"]]

/-- One argument in the signature of a dropped function: `[IN | OUT | INOUT]
[name] type [DEFAULT expr]`. A first type followed by a second type means the
first word was the name. -/
def parseSignatureArg (fuel : Nat) : Parser String := do
  let mode ← match ← parseOneOfKeywords ["IN", "OUT", "INOUT"] with
    | some m => pure (m ++ " ")
    | none => pure ""
  let first ← parseDataType
  let lastIndex := (← get) - 1
  let second ← maybeParse do
    if ← peekKeyword "DEFAULT" then failWith "The DEFAULT keyword is not a type"
    parseDataType
  let (name, ty) ← match second with
    | none => pure ("", first.type.text)
    | some ty =>
      let tok := (← read).tokens.getD lastIndex eofToken
      match tok.token with
      | .word _ _ => pure (tok.token.text ++ " ", ty.type.text)
      | _ => expected "a name or type" tok
  let default ←
    if ← parseEither (parseKeyword "DEFAULT") (consumeSym "=") then pure (" = " ++ (← parseExpr fuel).render)
    else pure ""
  return mode ++ name ++ ty ++ default

/-- A function or procedure named in a `DROP`, with its argument types if given. -/
def parseFunctionSignature (fuel : Nat) : Parser String := do
  let name ← parseObjectName
  if ← consumeSym "(" then
    if ← consumeSym ")" then return name.render ++ "()"
    let args ← commaSeparated (parseSignatureArg fuel)
    expectSym ")"
    return name.render ++ "(" ++ commaList args ++ ")"
  return name.render

/-- The rest of a `DROP` statement: a kind with a list of names, or one of the kinds
with a grammar of its own (functions, policies, triggers, extensions, ...). -/
def parseDrop (fuel : Nat) : Parser Statement := do
  let d ← dialect
  let temporary ← if d == .mysql || d == .generic then parseKeyword "TEMPORARY" else pure false
  let kind ← iterate (fun (acc : Option String) => do
    if acc.isSome then return none
    for kws in dropObjectTypes do
      if ← parseKeywords kws then return some (some (" ".intercalate kws))
    return none) none
  let ifExists : Parser String := do
    return if ← parseKeywords ["IF", "EXISTS"] then " IF EXISTS" else ""
  match kind with
  | some objectType =>
    let ifExists ← ifExists
    let names ← commaSeparated parseObjectName
    let loc ← peek
    let cascade ← parseKeyword "CASCADE"
    let restrict ← parseKeyword "RESTRICT"
    let purge ← parseKeyword "PURGE"
    if cascade && restrict then failAt "Cannot specify both CASCADE and RESTRICT in DROP" loc
    if objectType == "ROLE" && (cascade || restrict || purge) then
      failAt "Cannot specify CASCADE, RESTRICT, or PURGE in DROP ROLE" loc
    let on ← if ← parseKeyword "ON" then some <$> parseObjectName else pure none
    return .other ("DROP " ++ (if temporary then "TEMPORARY " else "") ++ objectType ++
      ifExists ++ " " ++ commaList (names.map Name.render) ++
      (if cascade then " CASCADE" else "") ++ (if restrict then " RESTRICT" else "") ++
      (if purge then " PURGE" else "") ++ (match on with | some t => " ON " ++ t.render | none => ""))
  | none =>
    if ← parseKeyword "FUNCTION" then
      let ie ← ifExists
      let fs ← commaSeparated (parseFunctionSignature fuel)
      return .other ("DROP FUNCTION" ++ ie ++ " " ++ commaList fs ++ (← parseOptionalCascade))
    if ← parseKeyword "POLICY" then
      let ie ← ifExists
      let name ← parseIdentifier
      expectKeyword "ON"
      let table ← parseObjectName
      return .other ("DROP POLICY" ++ ie ++ " " ++ name.render ++ " ON " ++ table.render ++
        (← parseOptionalCascade))
    if ← parseKeyword "CONNECTOR" then
      let ie ← ifExists
      return .other ("DROP CONNECTOR " ++ (if ie.isEmpty then "" else "IF EXISTS ") ++
        (← parseIdentifier).render)
    if ← parseKeyword "DOMAIN" then
      let ie ← ifExists
      let name ← parseObjectName
      return .other ("DROP DOMAIN" ++ ie ++ " " ++ name.render ++ (← parseOptionalCascade))
    if ← parseKeyword "PROCEDURE" then
      let ie ← ifExists
      let ps ← commaSeparated (parseFunctionSignature fuel)
      return .other ("DROP PROCEDURE" ++ ie ++ " " ++ commaList ps ++ (← parseOptionalCascade))
    if ← parseKeyword "SECRET" then
      let ie ← ifExists
      let name ← parseIdentifier
      let storage ← if ← parseKeyword "FROM" then attempt parseIdentifier else pure none
      return .other ("DROP " ++ (if temporary then "TEMPORARY " else "") ++ "SECRET " ++
        (if ie.isEmpty then "" else "IF EXISTS ") ++ name.render ++
        (match storage with | some s => " FROM " ++ s.render | none => ""))
    if ← parseKeyword "TRIGGER" then
      let ie ← ifExists
      let name ← parseObjectName
      let table ← if ← parseKeyword "ON" then some <$> parseObjectName else pure none
      return .other ("DROP TRIGGER" ++ ie ++ " " ++ name.render ++
        (match table with | some t => " ON " ++ t.render | none => "") ++ (← parseOptionalCascade))
    if ← parseKeyword "EXTENSION" then
      let ie ← ifExists
      let names ← commaSeparated parseIdentifier
      return .other ("DROP EXTENSION" ++ ie ++ " " ++ commaList (names.map Ident.render) ++
        (← parseOptionalCascade))
    expected ("CONNECTOR, DATABASE, EXTENSION, FUNCTION, INDEX, OPERATOR, POLICY, " ++
      "PROCEDURE, ROLE, SCHEMA, SECRET, SEQUENCE, STAGE, TABLE, TRIGGER, TYPE, VIEW, " ++
      "MATERIALIZED VIEW or USER after DROP") (← peek)

/-- The rest of `CREATE [TEMPORARY] SEQUENCE`: the name, `AS type`, the sequence
options and `OWNED BY`. -/
def parseCreateSequence (temporary : Bool) : Parser String := do
  let ifNotExists ← parseKeywords ["IF", "NOT", "EXISTS"]
  let name ← parseObjectName
  let type ← if ← parseKeyword "AS" then pure (" AS " ++ (← parseDataType).type.text) else pure ""
  let opts ← parseSequenceOptions
  let owned ←
    if ← parseKeywords ["OWNED", "BY"] then
      if ← parseKeyword "NONE" then pure " OWNED BY NONE"
      else pure (" OWNED BY " ++ (← parseObjectName).render)
    else pure ""
  return "CREATE " ++ (if temporary then "TEMPORARY " else "") ++ "SEQUENCE " ++
    (if ifNotExists then "IF NOT EXISTS " else "") ++ name.render ++ type ++ String.join opts ++ owned

/-- The rest of `CREATE EXTENSION [IF NOT EXISTS] name [WITH [SCHEMA s] [VERSION v] [CASCADE]]`. -/
def parseCreateExtension : Parser String := do
  let ifNotExists ← parseKeywords ["IF", "NOT", "EXISTS"]
  let name ← parseIdentifier
  let withPart ←
    if ← parseKeyword "WITH" then
      let schema ← if ← parseKeyword "SCHEMA" then some <$> parseIdentifier else pure none
      let version ← if ← parseKeyword "VERSION" then some <$> parseIdentifier else pure none
      let cascade ← parseKeyword "CASCADE"
      if schema.isNone && version.isNone && !cascade then pure ""
      else pure (" WITH" ++ (match schema with | some s => " SCHEMA " ++ s.render | none => "") ++
        (match version with | some v => " VERSION " ++ v.render | none => "") ++
        (if cascade then " CASCADE" else ""))
    else pure ""
  return "CREATE EXTENSION " ++ (if ifNotExists then "IF NOT EXISTS " else "") ++ name.render ++ withPart

/-- The rest of `CREATE TYPE name AS`: an enumeration `ENUM (labels)` or a
composite `(attribute type [COLLATE c], ...)`. -/
def parseCreateType : Parser String := do
  let name ← parseObjectName
  expectKeyword "AS"
  let head := "CREATE TYPE " ++ name.render ++ " AS "
  if ← parseKeyword "ENUM" then
    expectSym "("
    let labels ← if ← peekSym ")" then pure [] else commaSeparated parseIdentifier
    expectSym ")"
    return head ++ "ENUM (" ++ commaList (labels.map Ident.render) ++ ")"
  if !(← consumeSym "(") then return head ++ "()"
  if ← consumeSym ")" then return head ++ "()"
  let (attrs, _) ← iterate (fun (acc : List String × Bool) => do
    if acc.2 then return none
    let attr ← parseIdentifier
    let ty ← parseDataType
    let collation ← if ← parseKeyword "COLLATE" then pure (" COLLATE " ++ (← parseObjectName).render) else pure ""
    let text := attr.render ++ " " ++ ty.type.text ++ collation
    let comma ← consumeSym ","
    if ← consumeSym ")" then return some (acc.1 ++ [text], true)
    if !comma then expected "',' or ')' after attribute definition" (← peek)
    return some (acc.1 ++ [text], false)) ([], false)
  return head ++ "(" ++ commaList attrs ++ ")"

/-- The rest of `CREATE DOMAIN name AS type [COLLATE c] [DEFAULT e] constraints`. -/
def parseCreateDomain (fuel : Nat) : Parser String := do
  let name ← parseObjectName
  expectKeyword "AS"
  let ty ← parseDataType
  let collation ← if ← parseKeyword "COLLATE" then pure (" COLLATE " ++ (← parseIdentifier).render) else pure ""
  let default ← if ← parseKeyword "DEFAULT" then pure (" DEFAULT " ++ (← parseExpr fuel).render) else pure ""
  let constraints ← iterate (fun acc => do
    match ← parseTableConstraint fuel with
    | some c => return some (acc ++ [c])
    | none => return none) []
  return "CREATE DOMAIN " ++ name.render ++ " AS " ++ ty.type.text ++ collation ++ default ++
    (if constraints.isEmpty then "" else " " ++ " ".intercalate constraints)

/-- The options a role is created with, as read so far: each kind at most once. -/
structure RoleOptions where
  superuser : Option Bool := none
  createDb : Option Bool := none
  createRole : Option Bool := none
  inherit : Option Bool := none
  login : Option Bool := none
  replication : Option Bool := none
  bypassRls : Option Bool := none
  connectionLimit : Option String := none
  password : Option String := none
  validUntil : Option String := none
  inRole : List Ident := []
  inGroup : List Ident := []
  role : List Ident := []
  user : List Ident := []
  admin : List Ident := []
  authorization : Option Name := none

/-- The canonical text of the options of a created role, each after a space, in
their fixed order. -/
def RoleOptions.render (o : RoleOptions) : String :=
  let flag (yes no : String) : Option Bool → String
    | some true => " " ++ yes
    | some false => " " ++ no
    | none => ""
  let names (kw : String) (xs : List Ident) : String :=
    if xs.isEmpty then "" else " " ++ kw ++ " " ++ commaList (xs.map Ident.render)
  flag "SUPERUSER" "NOSUPERUSER" o.superuser ++ flag "CREATEDB" "NOCREATEDB" o.createDb ++
  flag "CREATEROLE" "NOCREATEROLE" o.createRole ++ flag "INHERIT" "NOINHERIT" o.inherit ++
  flag "LOGIN" "NOLOGIN" o.login ++ flag "REPLICATION" "NOREPLICATION" o.replication ++
  flag "BYPASSRLS" "NOBYPASSRLS" o.bypassRls ++
  (match o.connectionLimit with | some l => " CONNECTION LIMIT " ++ l | none => "") ++
  (match o.password with | some p => " PASSWORD " ++ p | none => "") ++
  (match o.validUntil with | some v => " VALID UNTIL " ++ v | none => "") ++
  names "IN ROLE" o.inRole ++ names "IN GROUP" o.inGroup ++ names "ROLE" o.role ++
  names "USER" o.user ++ names "ADMIN" o.admin ++
  (match o.authorization with | some n => " AUTHORIZATION " ++ n.render | none => "")

/-- The keywords that start an option of `CREATE ROLE` in a dialect. -/
def createRoleKeywords (d : Dialect) : List String :=
  if d == .mssql then ["AUTHORIZATION"]
  else if d == .postgres then
    ["LOGIN", "NOLOGIN", "INHERIT", "NOINHERIT", "BYPASSRLS", "NOBYPASSRLS", "PASSWORD", "CREATEDB",
     "NOCREATEDB", "CREATEROLE", "NOCREATEROLE", "SUPERUSER", "NOSUPERUSER", "REPLICATION",
     "NOREPLICATION", "CONNECTION", "VALID", "IN", "ROLE", "ADMIN", "USER"]
  else []

/-- One option of `CREATE ROLE` after its keyword `kw` at `loc`, added to `o`; an
option given twice is refused. -/
def parseCreateRoleOption (o : RoleOptions) (kw : String) (loc : Located) : Parser RoleOptions := do
  let once (present : Bool) (what : String) : Parser Unit := do
    if present then failAt ("Found multiple " ++ what) loc
  let idents : Parser (List Ident) := commaSeparated parseIdentifier
  match kw with
  | "AUTHORIZATION" =>
    once o.authorization.isSome "AUTHORIZATION"
    return { o with authorization := some (← parseObjectName) }
  | "LOGIN" | "NOLOGIN" =>
    once o.login.isSome "LOGIN or NOLOGIN"
    return { o with login := some (kw == "LOGIN") }
  | "INHERIT" | "NOINHERIT" =>
    once o.inherit.isSome "INHERIT or NOINHERIT"
    return { o with inherit := some (kw == "INHERIT") }
  | "BYPASSRLS" | "NOBYPASSRLS" =>
    once o.bypassRls.isSome "BYPASSRLS or NOBYPASSRLS"
    return { o with bypassRls := some (kw == "BYPASSRLS") }
  | "CREATEDB" | "NOCREATEDB" =>
    once o.createDb.isSome "CREATEDB or NOCREATEDB"
    return { o with createDb := some (kw == "CREATEDB") }
  | "CREATEROLE" | "NOCREATEROLE" =>
    once o.createRole.isSome "CREATEROLE or NOCREATEROLE"
    return { o with createRole := some (kw == "CREATEROLE") }
  | "SUPERUSER" | "NOSUPERUSER" =>
    once o.superuser.isSome "SUPERUSER or NOSUPERUSER"
    return { o with superuser := some (kw == "SUPERUSER") }
  | "REPLICATION" | "NOREPLICATION" =>
    once o.replication.isSome "REPLICATION or NOREPLICATION"
    return { o with replication := some (kw == "REPLICATION") }
  | "PASSWORD" =>
    once o.password.isSome "PASSWORD"
    if ← parseKeyword "NULL" then return { o with password := some "NULL" }
    return { o with password := some (← parseValue).render }
  | "CONNECTION" =>
    expectKeyword "LIMIT"
    once o.connectionLimit.isSome "CONNECTION LIMIT"
    return { o with connectionLimit := some (← parseNumberValue) }
  | "VALID" =>
    expectKeyword "UNTIL"
    once o.validUntil.isSome "VALID UNTIL"
    return { o with validUntil := some (← parseValue).render }
  | "IN" =>
    if ← parseKeyword "ROLE" then
      once (!o.inRole.isEmpty) "IN ROLE"
      return { o with inRole := ← idents }
    if ← parseKeyword "GROUP" then
      once (!o.inGroup.isEmpty) "IN GROUP"
      return { o with inGroup := ← idents }
    expected "ROLE or GROUP after IN" (← peek)
  | "ROLE" =>
    once (!o.role.isEmpty) "ROLE"
    return { o with role := ← idents }
  | "USER" =>
    once (!o.user.isEmpty) "USER"
    return { o with user := ← idents }
  | _ =>
    once (!o.admin.isEmpty) "ADMIN"
    return { o with admin := ← idents }

/-- The rest of `CREATE ROLE [IF NOT EXISTS] names [WITH] options`. -/
def parseCreateRole : Parser String := do
  let d ← dialect
  let ifNotExists ← parseKeywords ["IF", "NOT", "EXISTS"]
  let names ← commaSeparated parseObjectName
  let _ ← parseKeyword "WITH"
  let keywords := createRoleKeywords d
  let opts ← iterate (fun (o : RoleOptions) => do
    let loc ← peek
    match ← parseOneOfKeywords keywords with
    | some kw => return some (← parseCreateRoleOption o kw loc)
    | none => return none) {}
  return "CREATE ROLE " ++ (if ifNotExists then "IF NOT EXISTS " else "") ++
    commaList (names.map Name.render) ++ opts.render

/-- The rest of `CREATE POLICY name ON table [AS kind] [FOR command] [TO owners]
[USING (cond)] [WITH CHECK (cond)]`. -/
def parseCreatePolicy (fuel : Nat) : Parser String := do
  let name ← parseIdentifier
  expectKeyword "ON"
  let table ← parseObjectName
  let kind ←
    if ← parseKeyword "AS" then pure (" AS " ++ (← expectOneOfKeywords ["PERMISSIVE", "RESTRICTIVE"]))
    else pure ""
  let command ←
    if ← parseKeyword "FOR" then
      pure (" FOR " ++ (← expectOneOfKeywords ["ALL", "SELECT", "INSERT", "UPDATE", "DELETE"]))
    else pure ""
  return "CREATE POLICY " ++ name.render ++ " ON " ++ table.render ++ kind ++ command ++
    (← parsePolicyClauses fuel)

/-- The rest of `CREATE VIRTUAL TABLE [IF NOT EXISTS] name USING module [(args)]`. -/
def parseCreateVirtualTable : Parser String := do
  expectKeyword "TABLE"
  let ifNotExists ← parseKeywords ["IF", "NOT", "EXISTS"]
  let name ← parseObjectName
  expectKeyword "USING"
  let module ← parseIdentifier
  let args ← parseColumnList false
  return "CREATE VIRTUAL TABLE " ++ (if ifNotExists then "IF NOT EXISTS " else "") ++ name.render ++
    " USING " ++ module.render ++
    (if args.isEmpty then "" else " (" ++ commaList (args.map Ident.render) ++ ")")

/-- The rest of a `CREATE` statement: the words before the kind of object, then
the grammar of that kind. -/
def parseCreate (fuel : Nat) : Parser Statement := do
  let orReplace ← parseKeywords ["OR", "REPLACE"]
  let orAlter ← parseKeywords ["OR", "ALTER"]
  let isLocal ← parseKeyword "LOCAL"
  let isGlobal ← parseKeyword "GLOBAL"
  let transient ← parseKeyword "TRANSIENT"
  let temporary := (← parseOneOfKeywords ["TEMP", "TEMPORARY"]).isSome
  let global := if isGlobal then some true else if isLocal then some false else none
  let params ← parseCreateViewParams
  if ← parseKeyword "TABLE" then
    return .other (← parseCreateTable fuel ⟨orReplace, global, temporary, transient⟩)
  let t ← peekToken
  let t1 := (← peekAt 1).token
  let t2 := (← peekAt 2).token
  let viewNext := t.isKeyword "MATERIALIZED" || t.isKeyword "VIEW" ||
    (t.isKeyword "SECURE" && (t1.isKeyword "VIEW" || (t1.isKeyword "MATERIALIZED" && t2.isKeyword "VIEW")))
  if viewNext then return .other (← parseCreateView fuel orAlter orReplace temporary params)
  if ← parseKeyword "POLICY" then return .other (← parseCreatePolicy fuel)
  if ← parseKeyword "DOMAIN" then return .other (← parseCreateDomain fuel)
  if orReplace then
    expected "[EXTERNAL] TABLE or [MATERIALIZED] VIEW or FUNCTION after CREATE OR REPLACE" (← peek)
  if ← parseKeyword "EXTENSION" then return .other (← parseCreateExtension)
  if ← parseKeyword "INDEX" then return .other (← parseCreateIndex fuel false)
  if ← parseKeywords ["UNIQUE", "INDEX"] then return .other (← parseCreateIndex fuel true)
  if ← parseKeyword "VIRTUAL" then return .other (← parseCreateVirtualTable)
  if ← parseKeyword "SCHEMA" then return .other (← parseCreateSchema)
  if ← parseKeyword "DATABASE" then return .other (← parseCreateDatabase)
  if ← parseKeyword "ROLE" then return .other (← parseCreateRole)
  if ← parseKeyword "SEQUENCE" then return .other (← parseCreateSequence temporary)
  if ← parseKeyword "TYPE" then return .other (← parseCreateType)
  expected "an object type after CREATE" (← peek)

/-- The rest of `COMMENT [IF EXISTS] ON kind name IS 'text' | NULL`. -/
def parseComment : Parser String := do
  let ifExists ← parseKeywords ["IF", "EXISTS"]
  expectKeyword "ON"
  let t ← next
  let kind ← match t.token.keyword with
    | some k =>
      if ["COLUMN", "TABLE", "EXTENSION", "SCHEMA", "DATABASE", "USER", "ROLE"].contains k then pure k
      else expected "comment object_type" t
    | none => expected "comment object_type" t
  let name ← parseObjectName
  expectKeyword "IS"
  let text ← if ← parseKeyword "NULL" then pure "NULL" else pure ("'" ++ (← parseLiteralString) ++ "'")
  return "COMMENT " ++ (if ifExists then "IF EXISTS " else "") ++ "ON " ++ kind ++ " " ++ name.render ++
    " IS " ++ text

end Parser

end SqlScope.Sql
