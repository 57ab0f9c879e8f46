import SqlScope.Sql.Parser.Grammar

/-!
# Columns, constraints and options of a table

The pieces `CREATE TABLE` and `ALTER TABLE` are built from: a column definition
with its options, a constraint of the table, and the options that follow the
column list (`WITH (...)`, `ENGINE = ...`, `PARTITION BY ...`). Each is read in full
and kept as its canonical text, except a column definition, which stays a small
record so that the column list of a table is data.

A few readings are deliberately lenient, because the statement is accepted in
every dialect while only some give the words a meaning: a column option keyword
that the dialect lacks, such as `AUTO_INCREMENT` outside MySQL, is still consumed,
ends the options of the column, and is left out of the canonical text.
-/

namespace SqlScope.Sql

namespace Parser

/-- `CASCADE` or `RESTRICT` after a dropped object, as the text that follows it. -/
def parseDropBehavior : Parser String := do
  if ← parseKeyword "CASCADE" then return " CASCADE"
  if ← parseKeyword "RESTRICT" then return " RESTRICT"
  return ""

/-- What a foreign key does when the row it refers to is deleted or updated. -/
def parseReferentialAction : Parser String := do
  if ← parseKeyword "RESTRICT" then return "RESTRICT"
  if ← parseKeyword "CASCADE" then return "CASCADE"
  if ← parseKeywords ["SET", "NULL"] then return "SET NULL"
  if ← parseKeywords ["NO", "ACTION"] then return "NO ACTION"
  if ← parseKeywords ["SET", "DEFAULT"] then return "SET DEFAULT"
  expected "one of RESTRICT, CASCADE, SET NULL, NO ACTION or SET DEFAULT" (← peek)

/-- `[NOT] DEFERRABLE`, `INITIALLY DEFERRED | IMMEDIATE` and `[NOT] ENFORCED`, each
at most once and in any order; they print in that order. -/
def parseConstraintCharacteristics : Parser (List String) := do
  let (deferrable, initially, enforced) ← iterate
    (fun (acc : Option String × Option String × Option String) => do
      let (df, ini, enf) := acc
      if df.isNone then
        if ← parseKeywords ["NOT", "DEFERRABLE"] then return some (some "NOT DEFERRABLE", ini, enf)
        if ← parseKeyword "DEFERRABLE" then return some (some "DEFERRABLE", ini, enf)
      if ini.isNone then
        if ← parseKeyword "INITIALLY" then
          if ← parseKeyword "DEFERRED" then return some (df, some "INITIALLY DEFERRED", enf)
          if ← parseKeyword "IMMEDIATE" then return some (df, some "INITIALLY IMMEDIATE", enf)
          expected "one of DEFERRED or IMMEDIATE" (← peek)
      if enf.isNone then
        if ← parseKeyword "ENFORCED" then return some (df, ini, some "ENFORCED")
        if ← parseKeywords ["NOT", "ENFORCED"] then return some (df, ini, some "NOT ENFORCED")
      return none) (none, none, none)
  return [deferrable, initially, enforced].filterMap id

/-- `FULL`, `PARTIAL` or `SIMPLE` after `MATCH` in a foreign key. -/
def parseMatchKind : Parser String := do
  if ← parseKeyword "FULL" then return "MATCH FULL"
  if ← parseKeyword "PARTIAL" then return "MATCH PARTIAL"
  if ← parseKeyword "SIMPLE" then return "MATCH SIMPLE"
  expected "one of FULL, PARTIAL or SIMPLE" (← peek)

/-- What follows the referenced columns of a foreign key: `MATCH kind`,
`ON DELETE action` and `ON UPDATE action`, each at most once and in any order, then
the constraint characteristics. They print in that order, each after a space. -/
def parseReferenceRest : Parser String := do
  let (kind, onDelete, onUpdate) ← iterate
    (fun (acc : Option String × Option String × Option String) => do
      let (m, del, upd) := acc
      if m.isNone then
        if ← parseKeyword "MATCH" then return some (some (← parseMatchKind), del, upd)
      if del.isNone then
        if ← parseKeywords ["ON", "DELETE"] then
          return some (m, some ("ON DELETE " ++ (← parseReferentialAction)), upd)
      if upd.isNone then
        if ← parseKeywords ["ON", "UPDATE"] then
          return some (m, del, some ("ON UPDATE " ++ (← parseReferentialAction)))
      return none) (none, none, none)
  let characteristics ← parseConstraintCharacteristics
  return String.join (([kind, onDelete, onUpdate].filterMap id ++ characteristics).map (" " ++ ·))

/-- The text of a comment: a single-quoted or dollar-quoted string. -/
def parseCommentValue : Parser String := do
  let t ← next
  match t.token with
  | .singleQuoted s => return s
  | .dollarQuoted _ s => return s
  | _ => expected "string literal" t

/-- One option `name = value` in the parentheses after `WITH` or `OPTIONS`; the
dialects with `HEAP` tables also take that word alone. -/
def parseSqlOption (fuel : Nat) : Parser String := do
  let d ← dialect
  if (d == .mssql || d == .generic) && (← peekKeyword "HEAP") then
    return (← parseIdentifier).render
  let name ← parseIdentifier
  expectSym "="
  return name.render ++ " = " ++ (← parseExpr fuel).render

/-- The options in parentheses after `keyword`, as printed; none when the keyword is
absent or the parentheses are empty. -/
def parseOptionList (keyword : String) (fuel : Nat) : Parser (List String) := do
  if !(← parseKeyword keyword) then return []
  expectSym "("
  if ← peekSym ")" then
    advance
    return []
  let opts ← commaSeparated (parseSqlOption fuel)
  expectSym ")"
  return opts

/-- The options of an identity column or a sequence, in their fixed order, each
printed after a space. -/
def parseSequenceOptions : Parser (List String) := do
  let increment ←
    if ← parseKeyword "INCREMENT" then
      let by_ ← parseKeyword "BY"
      pure [" INCREMENT" ++ (if by_ then " BY" else "") ++ " " ++ (← parseNumber)]
    else pure []
  let minValue ←
    if ← parseKeyword "MINVALUE" then pure [" MINVALUE " ++ (← parseNumber)]
    else if ← parseKeywords ["NO", "MINVALUE"] then pure [" NO MINVALUE"] else pure []
  let maxValue ←
    if ← parseKeyword "MAXVALUE" then pure [" MAXVALUE " ++ (← parseNumber)]
    else if ← parseKeywords ["NO", "MAXVALUE"] then pure [" NO MAXVALUE"] else pure []
  let start ←
    if ← parseKeyword "START" then
      let with_ ← parseKeyword "WITH"
      pure [" START" ++ (if with_ then " WITH" else "") ++ " " ++ (← parseNumber)]
    else pure []
  let cache ← if ← parseKeyword "CACHE" then pure [" CACHE " ++ (← parseNumber)] else pure []
  let cycle ←
    if ← parseKeywords ["NO", "CYCLE"] then pure [" NO CYCLE"]
    else if ← parseKeyword "CYCLE" then pure [" CYCLE"] else pure []
  return increment ++ minValue ++ maxValue ++ start ++ cache ++ cycle

/-- The rest of a `GENERATED` column option: an identity with its sequence options,
or a computed column `ALWAYS AS (expr) [STORED | VIRTUAL]`; none when neither follows. -/
def parseGeneratedOption (fuel : Nat) : Parser (Option String) := do
  let identity (kind : String) : Parser (Option String) := do
    let opts ←
      if ← consumeSym "(" then
        let o ← parseSequenceOptions
        expectSym ")"
        pure o
      else pure []
    return some ("GENERATED " ++ kind ++ " AS IDENTITY" ++
      (if opts.isEmpty then "" else " (" ++ String.join opts ++ " )"))
  if ← parseKeywords ["ALWAYS", "AS", "IDENTITY"] then return ← identity "ALWAYS"
  if ← parseKeywords ["BY", "DEFAULT", "AS", "IDENTITY"] then return ← identity "BY DEFAULT"
  if ← parseKeywords ["ALWAYS", "AS"] then
    if ← consumeSym "(" then
      let e ← inColumnDefinition false (parseExpr fuel)
      expectSym ")"
      let text := "GENERATED ALWAYS AS (" ++ e.render ++ ")"
      if ← parseKeyword "STORED" then return some (text ++ " STORED")
      if (← dialect) == .postgres then expected "STORED" (← peek)
      if ← parseKeyword "VIRTUAL" then return some (text ++ " VIRTUAL")
      return some text
  return none

/-- The rest of the short computed-column form `AS (expr) [STORED | VIRTUAL]`. -/
def parseComputedAs (fuel : Nat) : Parser String := do
  expectSym "("
  let e ← parseExpr fuel
  expectSym ")"
  let mode ←
    if ← parseKeyword "STORED" then pure " STORED"
    else if ← parseKeyword "VIRTUAL" then pure " VIRTUAL" else pure ""
  return "AS (" ++ e.render ++ ")" ++ mode

/-- One option of a column, as text, or none when no option starts here. The
keywords are tried in a fixed order; a keyword that only some dialects give a
meaning is consumed in all of them, and where it has none the options end. -/
def parseColumnOption (fuel : Nat) : Parser (Option String) := inColumnDefinition true do
  let d ← dialect
  let generic := d == .generic
  let expr : Parser String := return (← parseExpr fuel).render
  if ← parseKeywords ["CHARACTER", "SET"] then return some ("CHARACTER SET " ++ (← parseObjectName).render)
  if ← parseKeyword "COLLATE" then return some ("COLLATE " ++ (← parseObjectName).render)
  if ← parseKeywords ["NOT", "NULL"] then return some "NOT NULL"
  if ← parseKeyword "COMMENT" then
    return some ("COMMENT '" ++ escapeQuoted '\'' (← parseCommentValue) ++ "'")
  if ← parseKeyword "NULL" then return some "NULL"
  if ← parseKeyword "DEFAULT" then return some ("DEFAULT " ++ (← expr))
  if ← parseWhen generic (parseKeyword "MATERIALIZED") then return some ("MATERIALIZED " ++ (← expr))
  if ← parseWhen generic (parseKeyword "ALIAS") then return some ("ALIAS " ++ (← expr))
  if ← parseWhen generic (parseKeyword "EPHEMERAL") then
    if (← peekSym ",") || (← peekSym ")") then return some "EPHEMERAL"
    return some ("EPHEMERAL " ++ (← expr))
  if ← parseKeywords ["PRIMARY", "KEY"] then
    return some (" ".intercalate ("PRIMARY KEY" :: (← parseConstraintCharacteristics)))
  if ← parseKeyword "UNIQUE" then
    return some (" ".intercalate ("UNIQUE" :: (← parseConstraintCharacteristics)))
  if ← parseKeyword "REFERENCES" then
    let table ← parseObjectName
    let cols ← parseColumnList false
    let rest ← parseReferenceRest
    return some ("REFERENCES " ++ table.render ++
      (if cols.isEmpty then "" else " (" ++ commaList (cols.map Ident.render) ++ ")") ++ rest)
  if ← parseKeyword "CHECK" then
    expectSym "("
    let e ← inColumnDefinition false (parseExpr fuel)
    expectSym ")"
    return some ("CHECK (" ++ e.render ++ ")")
  if (← parseKeyword "AUTO_INCREMENT") && (d == .mysql || generic) then return some "AUTO_INCREMENT"
  if (← parseKeyword "AUTOINCREMENT") && (d == .sqlite || generic) then return some "AUTOINCREMENT"
  if (← parseKeyword "ASC") && (d == .sqlite || generic) then return some "ASC"
  if (← parseKeyword "DESC") && (d == .sqlite || generic) then return some "DESC"
  if (← parseKeywords ["ON", "UPDATE"]) && (d == .mysql || generic) then
    return some ("ON UPDATE " ++ (← expr))
  if ← parseKeyword "GENERATED" then return ← parseGeneratedOption fuel
  if ← parseWhen generic (peekKeyword "OPTIONS") then
    return some ("OPTIONS(" ++ commaList (← parseOptionList "OPTIONS" fuel) ++ ")")
  if (← parseKeyword "AS") && (d == .mysql || d == .sqlite || generic) then
    return some (← parseComputedAs fuel)
  if (← parseKeyword "SRID") && (d == .mysql || generic) then return some ("SRID " ++ (← expr))
  if (← parseKeyword "IDENTITY") && (d == .mssql || generic) then
    if ← consumeSym "(" then
      let seed ← parseNumber
      expectSym ","
      let increment ← parseNumber
      expectSym ")"
      return some ("IDENTITY(" ++ seed ++ ", " ++ increment ++ ")")
    return some "IDENTITY"
  if ← parseWhen (d == .sqlite || generic) (parseKeywords ["ON", "CONFLICT"]) then
    return some ("ON CONFLICT " ++ (← expectOneOfKeywords ["ROLLBACK", "ABORT", "FAIL", "IGNORE", "REPLACE"]))
  if ← parseKeyword "INVISIBLE" then return some "INVISIBLE"
  return none

/-- The options after a column's type, each possibly named by `CONSTRAINT name`. -/
def parseColumnOptions (fuel : Nat) : Parser (List String) :=
  iterate (fun acc => do
    if ← parseKeyword "CONSTRAINT" then
      let name ← parseIdentifier
      match ← parseColumnOption fuel with
      | some o => return some (acc ++ ["CONSTRAINT " ++ name.render ++ " " ++ o])
      | none => expected "constraint details after CONSTRAINT <name>" (← peek)
    match ← parseColumnOption fuel with
    | some o => return some (acc ++ [o])
    | none => return none) []

/-- A column of a table: its name, its type (SQLite may leave it out), and its
options as printed. -/
structure ColumnDef where
  name : Ident
  type : Option DataType
  options : List String
  deriving Repr, BEq, Inhabited

/-- The canonical text of a column definition: `name TYPE options`. -/
def ColumnDef.render (c : ColumnDef) : String :=
  c.name.render ++ (match c.type with | some t => " " ++ t.text | none => "") ++
    String.join (c.options.map (" " ++ ·))

/-- The words that, right after a column name in SQLite, mean the type was left out. -/
def untypedColumnFollowers : List String :=
  ["CONSTRAINT", "PRIMARY", "NOT", "UNIQUE", "CHECK", "DEFAULT", "COLLATE", "REFERENCES",
   "GENERATED", "AS"]

/-- A column definition `name [TYPE] options`. -/
def parseColumnDef (fuel : Nat) : Parser ColumnDef := do
  let name ← parseIdentifier
  let untyped ←
    if (← dialect) == .sqlite then
      match ← peekToken with
      | .word v none => pure (untypedColumnFollowers.contains (keywordText v) && isKnownKeyword v)
      | .word _ (some _) => pure false
      | _ => pure true
    else pure false
  let type ← if untyped then pure none else some <$> (·.type) <$> parseDataType
  return ⟨name, type, ← parseColumnOptions fuel⟩

/-- The method of an index after `USING`: the known ones in capitals, any other
name as written. -/
def parseIndexMethod : Parser String := do
  match ← parseOneOfKeywords ["BTREE", "HASH", "GIN", "GIST", "SPGIST", "BRIN", "BLOOM"] with
  | some m => return m
  | none => return (← parseIdentifier).render

/-- `USING method`, if present. -/
def parseUsingIndexMethod : Parser (Option String) := do
  if ← parseKeyword "USING" then return some (← parseIndexMethod)
  return none

/-- One column of an index or key: an expression, an operator class when a name
follows it, and its order options. The operator class prints last. -/
def parseIndexColumn (fuel : Nat) : Parser String := do
  let e ← parseExpr fuel
  let t ← peekToken
  let opclass ←
    if ["ASC", "DESC", "NULLS", "WITH"].any t.isKeyword then pure none
    else maybeParse parseObjectName
  let asc ← do
    if ← parseKeyword "ASC" then pure (some true)
    else if ← parseKeyword "DESC" then pure (some false) else pure none
  let nulls ← do
    if ← parseKeywords ["NULLS", "FIRST"] then pure (some true)
    else if ← parseKeywords ["NULLS", "LAST"] then pure (some false) else pure none
  return (OrderByExpr.mk e asc nulls).render ++
    (match opclass with | some c => " " ++ c.render | none => "")

/-- The columns of an index or key, in parentheses that must be present. -/
def parseIndexColumns (fuel : Nat) : Parser (List String) := do
  if !(← consumeSym "(") then expected "a list of columns in parentheses" (← peek)
  let cols ← commaSeparated (parseIndexColumn fuel)
  expectSym ")"
  return cols

/-- `KEY` or `INDEX` after `UNIQUE`, `FULLTEXT` or `SPATIAL`, if present. -/
def parseKeyOrIndex : Parser String := do
  if ← parseKeyword "KEY" then return "KEY"
  if ← parseKeyword "INDEX" then return "INDEX"
  return ""

/-- The options after the columns of an index: `USING method` and `COMMENT 'text'`. -/
def parseIndexOptions : Parser (List String) :=
  iterate (fun acc => do
    if let some m ← parseUsingIndexMethod then return some (acc ++ ["USING " ++ m])
    if ← parseKeyword "COMMENT" then return some (acc ++ ["COMMENT '" ++ (← parseLiteralString) ++ "'"])
    return none) []

/-- `NULLS [NOT] DISTINCT` of a unique constraint, as the text that follows `UNIQUE`. -/
def parseNullsDistinct : Parser String := do
  if ← parseKeyword "NULLS" then
    let negated ← parseKeyword "NOT"
    expectKeyword "DISTINCT"
    return if negated then " NULLS NOT DISTINCT" else " NULLS DISTINCT"
  return ""

/-- A constraint of a table, as text: `[CONSTRAINT name]` then a unique or primary
key, a foreign key or a check, or, in MySQL and the generic dialect, an index or a
full-text or spatial index; `none` when no constraint starts here. -/
def parseTableConstraint (fuel : Nat) : Parser (Option String) := do
  let d ← dialect
  let mysqlLike := d == .mysql || d == .generic
  let name ← if ← parseKeyword "CONSTRAINT" then some <$> parseIdentifier else pure none
  let named := match name with
    | some n => "CONSTRAINT " ++ n.render ++ " "
    | none => ""
  let spaced (o : Option String) : String := match o with
    | some s => " " ++ s
    | none => ""
  let rest (opts cc : List String) : String :=
    (if opts.isEmpty then "" else " " ++ " ".intercalate opts) ++
    (if cc.isEmpty then "" else " " ++ " ".intercalate cc)
  let t ← next
  match t.token.keyword with
  | some "UNIQUE" =>
    let display ← parseKeyOrIndex
    if !mysqlLike && display != "" then expected "`index_name` or `(column_name [, ...])`" (← peek)
    let nullsDistinct ← parseNullsDistinct
    let indexName ← maybeParse parseIdentifier
    let method ← parseUsingIndexMethod
    let cols ← parseIndexColumns fuel
    let opts ← parseIndexOptions
    let cc ← parseConstraintCharacteristics
    return some (named ++ "UNIQUE" ++ nullsDistinct ++ (if display == "" then "" else " " ++ display) ++
      spaced (indexName.map Ident.render) ++ spaced ((·.map ("USING " ++ ·)) method) ++
      " (" ++ commaList cols ++ ")" ++ rest opts cc)
  | some "PRIMARY" =>
    expectKeyword "KEY"
    let indexName ← maybeParse parseIdentifier
    let method ← parseUsingIndexMethod
    let cols ← parseIndexColumns fuel
    let opts ← parseIndexOptions
    let cc ← parseConstraintCharacteristics
    return some (named ++ "PRIMARY KEY" ++ spaced (indexName.map Ident.render) ++
      spaced ((·.map ("USING " ++ ·)) method) ++ " (" ++ commaList cols ++ ")" ++ rest opts cc)
  | some "FOREIGN" =>
    expectKeyword "KEY"
    let indexName ← maybeParse parseIdentifier
    let cols ← parseRequiredColumnList
    expectKeyword "REFERENCES"
    let table ← parseObjectName
    let referred ← parseColumnList false
    let tail ← parseReferenceRest
    return some (named ++ "FOREIGN KEY" ++ spaced (indexName.map Ident.render) ++
      " (" ++ commaList (cols.map Ident.render) ++ ") REFERENCES " ++ table.render ++
      (if referred.isEmpty then "" else "(" ++ commaList (referred.map Ident.render) ++ ")") ++ tail)
  | some "CHECK" =>
    let e ← parenthesized (parseExpr fuel)
    let enforced ←
      if ← parseKeyword "ENFORCED" then pure " ENFORCED"
      else if ← parseKeywords ["NOT", "ENFORCED"] then pure " NOT ENFORCED" else pure ""
    return some (named ++ "CHECK (" ++ e.render ++ ")" ++ enforced)
  | some "INDEX" | some "KEY" =>
    if !mysqlLike || name.isSome then
      if name.isSome then expected "PRIMARY, UNIQUE, FOREIGN, or CHECK" t
      back
      return none
    let indexName ← if ← peekKeyword "USING" then pure none else maybeParse parseIdentifier
    let method ← parseUsingIndexMethod
    let cols ← parseIndexColumns fuel
    let opts ← parseIndexOptions
    return some ((if t.token.isKeyword "KEY" then "KEY" else "INDEX") ++ spaced (indexName.map Ident.render) ++
      spaced ((·.map ("USING " ++ ·)) method) ++ " (" ++ commaList cols ++ ")" ++
      (if opts.isEmpty then "" else " " ++ commaList opts))
  | some "FULLTEXT" | some "SPATIAL" =>
    if !mysqlLike then
      if name.isSome then expected "PRIMARY, UNIQUE, FOREIGN, or CHECK" t
      back
      return none
    if let some n := name then
      expected "FULLTEXT or SPATIAL option without constraint name" { token := .word n.render none, line := t.line, col := t.col }
    let display ← parseKeyOrIndex
    let indexName ← maybeParse parseIdentifier
    let cols ← parseIndexColumns fuel
    return some ((if t.token.isKeyword "FULLTEXT" then "FULLTEXT" else "SPATIAL") ++
      (if display == "" then "" else " " ++ display) ++ spaced (indexName.map Ident.render) ++
      " (" ++ commaList cols ++ ")")
  | _ =>
    if name.isSome then expected "PRIMARY, UNIQUE, FOREIGN, or CHECK" t
    back
    return none

/-- The parenthesised column and constraint list of `CREATE TABLE`: the columns and
the constraints, each in the order written. Absent parentheses and `()` give
nothing. -/
def parseTableElements (fuel : Nat) : Parser (List ColumnDef × List String) := do
  if !(← consumeSym "(") then return ([], [])
  if ← consumeSym ")" then return ([], [])
  let (cols, constraints, _) ← iterate (fun (acc : List ColumnDef × List String × Bool) => do
    let (cols, constraints, done) := acc
    if done then return none
    let (cols, constraints) ← do
      match ← parseTableConstraint fuel with
      | some c => pure (cols, constraints ++ [c])
      | none =>
        match (← peekToken) with
        | .word _ _ => do pure (cols ++ [← parseColumnDef fuel], constraints)
        | _ => expected "column name or constraint definition" (← peek)
    let comma ← consumeSym ","
    let rparen ← peekSym ")"
    if !comma && !rparen then expected "',' or ')' after column definition" (← peek)
    if rparen && !comma then
      advance
      return some (cols, constraints, true)
    return some (cols, constraints, false)) ([], [], false)
  return (cols, constraints)

/-- The keys of the `key = value` table options, each given by its keywords. -/
def tableOptionKeys : List (List String) :=
  [["DEFAULT", "CHARSET"], ["CHARSET"], ["DEFAULT", "CHARACTER", "SET"], ["CHARACTER", "SET"],
   ["DEFAULT", "COLLATE"], ["COLLATE"], ["DATA", "DIRECTORY"], ["INDEX", "DIRECTORY"],
   ["KEY_BLOCK_SIZE"], ["ROW_FORMAT"], ["PACK_KEYS"], ["STATS_AUTO_RECALC"], ["STATS_PERSISTENT"],
   ["STATS_SAMPLE_PAGES"], ["DELAY_KEY_WRITE"], ["COMPRESSION"], ["ENCRYPTION"], ["MAX_ROWS"],
   ["MIN_ROWS"], ["AUTOEXTEND_SIZE"], ["AVG_ROW_LENGTH"], ["CHECKSUM"], ["CONNECTION"],
   ["ENGINE_ATTRIBUTE"], ["PASSWORD"], ["SECONDARY_ENGINE_ATTRIBUTE"], ["INSERT_METHOD"],
   ["AUTO_INCREMENT"]]

/-- One option of a table written without parentheses after the column list, such
as `ENGINE = InnoDB` or `DEFAULT CHARSET = utf8`, as printed; none when no such
option starts here. The `=` is optional and always printed. -/
def parsePlainTableOption : Parser (Option String) := do
  if ← parseKeywords ["START", "TRANSACTION"] then return some "START TRANSACTION"
  if ← parseKeyword "COMMENT" then
    let eq ← consumeSym "="
    let t ← next
    match t.token with
    | .singleQuoted s => return some ((if eq then "COMMENT = '" else "COMMENT '") ++ s ++ "'")
    | tok => expected "Token::SingleQuotedString" { token := tok, line := 0, col := 0 }
  if ← parseKeyword "ENGINE" then
    let _ ← consumeSym "="
    let t ← next
    match t.token with
    | .word v _ =>
      let params ←
        if ← consumeSym "(" then
          let ps ← if ← peekSym ")" then pure [] else commaSeparated parseIdentifier
          expectSym ")"
          pure ps
        else pure []
      return some ("ENGINE = " ++ v ++
        (if params.isEmpty then "" else "(" ++ commaList (params.map Ident.render) ++ ")"))
    | _ => expected "Token::Word" t
  if ← parseKeyword "TABLESPACE" then
    let _ ← consumeSym "="
    let t ← next
    let name ← match t.token with
      | .word v _ => pure v
      | .singleQuoted s => pure s
      | _ => expected "Token::Word" t
    let storage ←
      if ← parseKeyword "STORAGE" then
        let _ ← consumeSym "="
        let s ← next
        match s.token with
        | .word v _ =>
          match v.toUpper with
          | "DISK" => pure " STORAGE DISK"
          | "MEMORY" => pure " STORAGE MEMORY"
          | _ => expected "Storage type (DISK or MEMORY)" s
        | _ => expected "Token::Word" s
      else pure ""
    return some ("TABLESPACE " ++ name ++ storage)
  if ← parseKeyword "UNION" then
    let _ ← consumeSym "="
    let t ← next
    match t.token with
    | .sym "(" =>
      let tables ← if ← peekSym ")" then pure [] else commaSeparated parseIdentifier
      expectSym ")"
      return some ("UNION = (" ++ commaList (tables.map Ident.render) ++ ")")
    | _ => expected "Token::LParen" t
  let key ← iterate (fun (found : Option String) => do
    if found.isSome then return none
    for kws in tableOptionKeys do
      if ← parseKeywords kws then return some (some (" ".intercalate kws))
    return none) none
  match key with
  | none => return none
  | some k =>
    let _ ← consumeSym "="
    let value ← match ← maybeParse parseValue with
      | some v => pure v.render
      | none => pure (← parseIdentifier).render
    return some (k ++ " = " ++ value)

/-- The table options written without parentheses, optionally separated by commas. -/
def parsePlainTableOptions : Parser (List String) :=
  iterate (fun acc => do
    match ← parsePlainTableOption with
    | some o =>
      let _ ← consumeSym ","
      return some (acc ++ [o])
    | none => return none) []

/-- Whether a table is declared `GLOBAL` or `LOCAL`, `TEMPORARY`, `TRANSIENT`, or
to replace an existing one: the words between `CREATE` and `TABLE`. -/
structure TableKind where
  orReplace : Bool
  global : Option Bool
  temporary : Bool
  transient : Bool

/-- The words of a table kind as they print before `TABLE`. -/
def TableKind.render (k : TableKind) : String :=
  (if k.orReplace then "OR REPLACE " else "") ++
  (match k.global with | some true => "GLOBAL " | some false => "LOCAL " | none => "") ++
  (if k.temporary then "TEMPORARY " else "") ++ (if k.transient then "TRANSIENT " else "")

/-- The rest of `CREATE ... TABLE`: the name, a `LIKE` or `CLONE` source, the
columns and constraints, the table options, and an `AS` query. -/
def parseCreateTable (fuel : Nat) (kind : TableKind) : Parser String := do
  let d ← dialect
  let ifNotExists ← parseKeywords ["IF", "NOT", "EXISTS"]
  let name ← parseObjectName
  let onCluster ← if ← parseKeywords ["ON", "CLUSTER"] then some <$> parseIdentifier else pure none
  let like ←
    if ← parseEither (parseKeyword "LIKE") (parseKeyword "ILIKE") then some <$> parseObjectName
    else pure none
  let clone ← if ← parseKeyword "CLONE" then attempt parseObjectName else pure none
  let (columns, constraints) ← parseTableElements fuel
  let withoutRowid ← parseKeywords ["WITHOUT", "ROWID"]
  let partitioned ←
    if ← parseKeywords ["PARTITIONED", "BY"] then
      expectSym "("
      let cols ← commaSeparated (parseColumnDef fuel)
      expectSym ")"
      pure (" PARTITIONED BY (" ++ commaList (cols.map ColumnDef.render) ++ ")")
    else pure ""
  let inherits ←
    if ← parseKeyword "INHERITS" then
      if !(← consumeSym "(") then expected "a list of columns in parentheses" (← peek)
      let names ← commaSeparated parseObjectName
      expectSym ")"
      pure (" INHERITS (" ++ commaList (names.map Name.render) ++ ")")
    else pure ""
  let withOptions ← parseOptionList "WITH" fuel
  let properties ← parseOptionList "TBLPROPERTIES" fuel
  let tableOptions :=
    if !properties.isEmpty then "TBLPROPERTIES (" ++ commaList properties ++ ")"
    else if !withOptions.isEmpty then "WITH (" ++ commaList withOptions ++ ")" else ""
  let partitionBy ←
    if ← parseWhen (d == .postgres || d == .generic) (parseKeywords ["PARTITION", "BY"]) then
      pure (" PARTITION BY " ++ (← parseExpr fuel).render)
    else pure ""
  let clusterBy ←
    if ← parseWhen (d == .generic) (parseKeywords ["CLUSTER", "BY"]) then
      pure (" CLUSTER BY " ++ commaList ((← commaSeparated (parseExpr fuel)).map Expr.render))
    else pure ""
  let bracketOptions ←
    if ← parseWhen (d == .generic) (peekKeyword "OPTIONS") then
      pure (some ("OPTIONS(" ++ commaList (← parseOptionList "OPTIONS" fuel) ++ ")"))
    else pure none
  let tableOptions ←
    if bracketOptions.isSome then pure ""
    else if tableOptions.isEmpty then pure (" ".intercalate (← parsePlainTableOptions))
    else pure tableOptions
  let primaryKey ←
    if ← parseWhen (d == .generic) (parseKeywords ["PRIMARY", "KEY"]) then
      pure (" PRIMARY KEY " ++ (← parseExpr fuel).render)
    else pure ""
  let orderBy ←
    if ← parseKeywords ["ORDER", "BY"] then
      if ← consumeSym "(" then
        let es ← if ← peekSym ")" then pure [] else commaSeparated (parseExpr fuel)
        expectSym ")"
        pure (" ORDER BY (" ++ commaList (es.map Expr.render) ++ ")")
      else pure (" ORDER BY " ++ (← parseExpr fuel).render)
    else pure ""
  let onCommit ←
    if ← parseKeywords ["ON", "COMMIT"] then
      if ← parseKeywords ["DELETE", "ROWS"] then pure " ON COMMIT DELETE ROWS"
      else if ← parseKeywords ["PRESERVE", "ROWS"] then pure " ON COMMIT PRESERVE ROWS"
      else if ← parseKeyword "DROP" then pure " ON COMMIT DROP"
      else failAt "Expecting DELETE ROWS, PRESERVE ROWS or DROP" (← peek)
    else pure ""
  let strict ← parseKeyword "STRICT"
  let query ←
    if ← parseKeyword "AS" then some <$> parseQuery fuel
    else if ← parseWhen (d == .mysql) (peekKeyword "SELECT") then some <$> parseQuery fuel
    else pure none
  let body :=
    if !columns.isEmpty || !constraints.isEmpty then
      " (" ++ commaList (columns.map ColumnDef.render ++ constraints) ++ ")"
    else if query.isNone && like.isNone && clone.isNone then " ()" else ""
  return "CREATE " ++ kind.render ++ "TABLE " ++ (if ifNotExists then "IF NOT EXISTS " else "") ++
    name.render ++ (match onCluster with | some c => " ON CLUSTER " ++ c.render | none => "") ++
    body ++ (if withoutRowid then " WITHOUT ROWID" else "") ++
    (match like with | some l => " LIKE " ++ l.render | none => "") ++
    (match clone with | some c => " CLONE " ++ c.render | none => "") ++
    partitioned ++ (if tableOptions.isEmpty then "" else " " ++ tableOptions) ++ primaryKey ++
    orderBy ++ inherits ++ partitionBy ++ clusterBy ++
    (match bracketOptions with | some o => " " ++ o | none => "") ++ onCommit ++
    (if strict then " STRICT" else "") ++
    (match query with | some q => " AS " ++ q.render | none => "")

end Parser

end SqlScope.Sql
