import SqlScope.Sql.Parser.Session

/-!
# Privilege statements

`GRANT` and `REVOKE`: which privileges, on which objects, to or from whom. Like
the other statements that the rewriting rules leave alone, they are read in full
and kept as canonical text.

The canonical form drops `TABLE` before a list of tables, so
`GRANT SELECT ON TABLE t TO u` prints as `GRANT SELECT ON t TO u`; every other kind
of object keeps its keyword.
-/

namespace SqlScope.Sql

namespace Parser

/-- The privileges that are a single keyword. -/
def plainPrivileges : List String :=
  ["CONNECT", "DELETE", "TEMPORARY", "TRIGGER", "TRUNCATE", "USAGE", "OWNERSHIP", "DROP", "READ",
   "AUDIT", "APPLYBUDGET"]

/-- The kinds of object that may follow `CREATE` in a privilege. -/
def creatableObjects : List String :=
  ["APPLICATION", "DATABASE", "INTEGRATION", "ROLE", "SCHEMA", "SHARE", "USER", "WAREHOUSE"]

/-- One privilege, as text: `SELECT`, `INSERT`, `UPDATE` or `REFERENCES` with an
optional column list, `CREATE` with an optional kind of object, `ROLE name`, or a
single keyword. -/
def parsePrivilege : Parser String := do
  if let some kw ← parseOneOfKeywords ["SELECT", "INSERT", "UPDATE", "REFERENCES"] then
    let cols ← parseColumnList false
    return kw ++ (if cols.isEmpty then "" else " (" ++ commaList (cols.map Ident.render) ++ ")")
  if ← parseKeyword "CREATE" then
    match ← parseOneOfKeywords creatableObjects with
    | some obj => return "CREATE " ++ obj
    | none => return "CREATE"
  if ← parseKeyword "ROLE" then return "ROLE " ++ (← parseObjectName).render
  match ← parseOneOfKeywords ("EXECUTE" :: plainPrivileges) with
  | some kw => return kw
  | none => expected "a privilege keyword" (← peek)

/-- The privileges of a `GRANT` or `REVOKE`: `ALL [PRIVILEGES]` or a list. -/
def parsePrivileges : Parser String := do
  if ← parseKeyword "ALL" then
    return if ← parseKeyword "PRIVILEGES" then "ALL PRIVILEGES" else "ALL"
  return commaList (← commaSeparated parsePrivilege)

/-- The kinds of object named before a list of objects, and the keyword each keeps
in the canonical text; tables keep none. -/
def objectKinds : List String :=
  ["SEQUENCE", "DATABASE", "SCHEMA", "TABLE", "VIEW", "WAREHOUSE", "INTEGRATION", "USER",
   "CONNECTION", "PROCEDURE", "FUNCTION"]

/-- The objects after `ON`: `ALL TABLES IN SCHEMA s`, `ALL SEQUENCES IN SCHEMA s`, a
procedure or function with its argument types, or a list of names after an
optional kind of object. -/
def parseGrantObjects : Parser String := do
  let names : Parser String := do return commaList ((← commaSeparated parseObjectName).map Name.render)
  if ← parseKeywords ["ALL", "TABLES", "IN", "SCHEMA"] then return "ALL TABLES IN SCHEMA " ++ (← names)
  if ← parseKeywords ["ALL", "SEQUENCES", "IN", "SCHEMA"] then
    return "ALL SEQUENCES IN SCHEMA " ++ (← names)
  let kind ← parseOneOfKeywords objectKinds
  let objects ← commaSeparated parseObjectName
  match kind with
  | some "PROCEDURE" | some "FUNCTION" =>
    let some first := objects.head? | expected "procedure or function name" (← peek)
    let argTypes ←
      if ← consumeSym "(" then
        let tys ← if ← peekSym ")" then pure [] else commaSeparated parseDataType
        expectSym ")"
        pure (tys.map fun t => t.type.text)
      else pure []
    return kind.getD "" ++ " " ++ first.render ++
      (if argTypes.isEmpty then "" else "(" ++ commaList argTypes ++ ")")
  | some "TABLE" | none => return commaList (objects.map Name.render)
  | some k => return k ++ " " ++ commaList (objects.map Name.render)

/-- The grantees after `TO` or `FROM`. A kind (`ROLE`, `USER`, `SHARE`, `GROUP`,
`PUBLIC`, `DATABASE ROLE`, `APPLICATION [ROLE]`) carries over to the grantees after
it; `PUBLIC` names no one else. MySQL and the generic dialect also take `user@host`. -/
def parseGrantees : Parser (List String) := do
  let d ← dialect
  let (grantees, _, _) ← iterate (fun (acc : List String × String × Bool) => do
    if acc.2.2 then return none
    let kind ←
      if ← parseKeyword "ROLE" then pure "ROLE"
      else if ← parseKeyword "USER" then pure "USER"
      else if ← parseKeyword "SHARE" then pure "SHARE"
      else if ← parseKeyword "GROUP" then pure "GROUP"
      else if ← parseKeyword "PUBLIC" then pure "PUBLIC"
      else if ← parseKeywords ["DATABASE", "ROLE"] then pure "DATABASE ROLE"
      else if ← parseKeywords ["APPLICATION", "ROLE"] then pure "APPLICATION ROLE"
      else if ← parseKeyword "APPLICATION" then pure "APPLICATION"
      else pure acc.2.1
    let lead := if kind.isEmpty then "" else kind ++ " "
    let grantee ←
      if kind == "PUBLIC" then pure lead
      else
        let name ← parseObjectName
        if ← parseWhen ((d == .mysql || d == .generic) && name.parts.length == 1) (consumeSym "@") then
          let host ← parseIdentifier
          pure (lead ++ name.render ++ "@" ++ host.render)
        else if ← consumeSym ":" then
          let ident ← parseIdentifier
          pure (lead ++ name.render ++ ":" ++ ident.render)
        else pure (lead ++ name.render)
    return some (acc.1 ++ [grantee], kind, !(← consumeSym ","))) ([], "", false)
  return grantees

/-- The rest of a `GRANT`: privileges, `ON` objects, `TO` grantees, then
`WITH GRANT OPTION`, `COPY CURRENT GRANTS` or `REVOKE CURRENT GRANTS`, `AS grantor`
and `GRANTED BY grantor`. -/
def parseGrant : Parser String := do
  let privileges ← parsePrivileges
  let objects ← if ← parseKeyword "ON" then some <$> parseGrantObjects else pure none
  expectKeyword "TO"
  let grantees ← parseGrantees
  let withOption ← parseKeywords ["WITH", "GRANT", "OPTION"]
  let current ←
    if ← parseKeywords ["COPY", "CURRENT", "GRANTS"] then pure " COPY CURRENT GRANTS"
    else if ← parseKeywords ["REVOKE", "CURRENT", "GRANTS"] then pure " REVOKE CURRENT GRANTS"
    else pure ""
  let asGrantor ← if ← parseKeyword "AS" then pure (" AS " ++ (← parseIdentifier).render) else pure ""
  let grantedBy ←
    if ← parseKeywords ["GRANTED", "BY"] then pure (" GRANTED BY " ++ (← parseIdentifier).render)
    else pure ""
  return "GRANT " ++ privileges ++ " " ++
    (match objects with | some o => "ON " ++ o ++ " " | none => "") ++
    "TO " ++ commaList grantees ++ (if withOption then " WITH GRANT OPTION" else "") ++ current ++
    asGrantor ++ grantedBy

/-- The rest of a `REVOKE`: privileges, `ON` objects, `FROM` grantees, then
`GRANTED BY grantor` and `CASCADE` or `RESTRICT`. -/
def parseRevoke : Parser String := do
  let privileges ← parsePrivileges
  let objects ← if ← parseKeyword "ON" then some <$> parseGrantObjects else pure none
  expectKeyword "FROM"
  let grantees ← parseGrantees
  let grantedBy ←
    if ← parseKeywords ["GRANTED", "BY"] then pure (" GRANTED BY " ++ (← parseIdentifier).render)
    else pure ""
  let behavior ← parseDropBehavior
  return "REVOKE " ++ privileges ++ " " ++
    (match objects with | some o => "ON " ++ o ++ " " | none => "") ++
    "FROM " ++ commaList grantees ++ grantedBy ++ behavior

end Parser

end SqlScope.Sql
