import SqlScope.Sql.Parser.Core

/-!
# Type names

Type names after `::`, in `CAST(... AS type)`, in column definitions and before a
typed string such as `DATE '2024-01-01'`. A known type keyword prints in capitals
with its length, precision or time zone in the canonical form (`DECIMAL(10,2)`,
`TIMESTAMP WITH TIME ZONE`); any other name is a custom type and prints as written,
with its modifiers.
-/

namespace SqlScope.Sql

namespace Parser

/-- A type as parsed: its printed text, whether it is a custom (unknown) name, and
whether it is an interval type. -/
structure ParsedType where
  type : DataType
  custom : Bool
  interval : Bool

/-- `(n)` after a type, if present. -/
def optionalPrecision : Parser String := do
  if ← consumeSym "(" then
    let n ← parseLiteralUint
    expectSym ")"
    return "(" ++ toString n ++ ")"
  return ""

/-- A signed integer, for the scale of a decimal type. -/
def parseSignedInteger : Parser String := do
  let neg ← consumeSym "-"
  let t ← next
  match t.token with
  | .number s _ =>
    if s.toList.all Char.isDigit then return (if neg then "-" else "") ++ s
    else failAt ("Could not parse '" ++ s ++ "' as i64: invalid digit found in string") t
  | _ => expected "literal int" t

/-- `(p)` or `(p,s)` after a decimal type, if present. -/
def optionalPrecisionScale : Parser String := do
  if ← consumeSym "(" then
    let p ← parseLiteralUint
    let s ← if ← consumeSym "," then pure ("," ++ (← parseSignedInteger)) else pure ""
    expectSym ")"
    return "(" ++ toString p ++ s ++ ")"
  return ""

/-- `(n)`, `(n CHARACTERS)`, `(n OCTETS)` or `(MAX)` after a character type, if present. -/
def optionalCharLength : Parser String := do
  if ← consumeSym "(" then
    if ← parseKeyword "MAX" then
      expectSym ")"
      return "(MAX)"
    let n ← parseLiteralUint
    let unit ← do
      if ← parseKeyword "CHARACTERS" then pure " CHARACTERS"
      else if ← parseKeyword "OCTETS" then pure " OCTETS" else pure ""
    expectSym ")"
    return "(" ++ toString n ++ unit ++ ")"
  return ""

/-- ` UNSIGNED` after a numeric type, if present. -/
def optionalUnsigned : Parser String := do
  if ← parseKeyword "UNSIGNED" then return " UNSIGNED" else return ""

/-- The time zone part of `TIME` and `TIMESTAMP`, given the precision text. -/
def timeZoneSuffix (precision : String) : Parser String := do
  if ← parseKeyword "WITH" then
    expectKeywords ["TIME", "ZONE"]
    return precision ++ " WITH TIME ZONE"
  if ← parseKeyword "WITHOUT" then
    expectKeywords ["TIME", "ZONE"]
    return precision ++ " WITHOUT TIME ZONE"
  return precision

/-- The modifiers `(a, 1, 'x')` of a custom type, if present. -/
def customModifiers : Parser (List String) := do
  if !(← consumeSym "(") then return []
  let fuel := (← read).tokens.size + 1
  let rec go : Nat → List String → Parser (List String)
    | 0, acc => return acc.reverse
    | k + 1, acc => do
      let t ← next
      match t.token with
      | .word _ _ => go k (t.token.text :: acc)
      | .number n false => go k (n :: acc)
      | .singleQuoted s => go k (s :: acc)
      | .sym "," => go k acc
      | .sym ")" => return acc.reverse
      | _ => expected "type modifiers" t
  go fuel []

/-- A number, with an optional sign: the seed of an identity column, the value of
an enumeration member, a bound of a sequence. -/
def parseNumber : Parser String := do
  let sign ←
    if ← consumeSym "+" then pure "+" else if ← consumeSym "-" then pure "-" else pure ""
  let v ← parseValue
  match v with
  | .number s => return sign ++ s
  | .placeholder s => return sign ++ s
  | _ =>
    back
    expected "literal number" (← peek)

/-- The members of `ENUM('a', 'b' = 2)`, as printed. -/
def parseEnumMembers : Parser (List String) := do
  expectSym "("
  let members ← commaSeparated do
    let quoted := "'" ++ escapeQuoted '\'' (← parseLiteralString) ++ "'"
    if ← consumeSym "=" then return quoted ++ " = " ++ (← parseNumber)
    return quoted
  expectSym ")"
  return members

/-- The strings of `SET('a', 'b')`, as printed. -/
def parseSetMembers : Parser (List String) := do
  expectSym "("
  let fuel := (← read).tokens.size + 1
  let rec go : Nat → List String → Parser (List String)
    | 0, acc => return acc.reverse
    | k + 1, acc => do
      let t ← next
      let s ← match t.token with
        | .singleQuoted s => pure s
        | _ => expected "a string" t
      let acc := ("'" ++ escapeQuoted '\'' s ++ "'") :: acc
      let sep ← next
      match sep.token with
      | .sym "," => go k acc
      | .sym ")" => return acc.reverse
      | _ => expected ", or \x7d" sep
  go fuel []

/-- The fields of an interval type, such as `DAY TO SECOND`, if present. -/
def parseIntervalFields : Parser String := do
  match ← parseOneOfKeywords ["YEAR", "DAY", "HOUR", "MINUTE", "MONTH", "SECOND"] with
  | some "YEAR" =>
    if ← peekKeyword "TO" then
      expectKeywords ["TO", "MONTH"]
      return " YEAR TO MONTH"
    return " YEAR"
  | some "DAY" =>
    if ← peekKeyword "TO" then
      advance
      return " DAY TO " ++ (← expectOneOfKeywords ["HOUR", "MINUTE", "SECOND"])
    return " DAY"
  | some "HOUR" =>
    if ← peekKeyword "TO" then
      advance
      return " HOUR TO " ++ (← expectOneOfKeywords ["MINUTE", "SECOND"])
    return " HOUR"
  | some "MINUTE" =>
    if ← peekKeyword "TO" then
      expectKeywords ["TO", "SECOND"]
      return " MINUTE TO SECOND"
    return " MINUTE"
  | some f => return " " ++ f
  | none => return ""

/-- Type keywords that stand alone, printed as written in capitals. -/
def plainTypeKeywords : List String :=
  ["BOOLEAN", "BOOL", "FLOAT4", "FLOAT8", "FLOAT32", "FLOAT64", "UUID", "DATE", "DATE32",
   "JSON", "JSONB", "REGCLASS", "TEXT", "TINYTEXT", "MEDIUMTEXT", "LONGTEXT", "BYTEA",
   "TINYBLOB", "MEDIUMBLOB", "LONGBLOB", "HUGEINT", "TRIGGER", "INT16", "INT32", "INT64", "INT128",
   "INT256", "UBIGINT", "UHUGEINT", "USMALLINT", "UTINYINT", "UINT8", "UINT16", "UINT32", "UINT64",
   "UINT128", "UINT256", "TIMESTAMP_NTZ"]

/-- Integer type keywords, which take an optional display width and `UNSIGNED`. -/
def integerTypeKeywords : List String :=
  ["TINYINT", "INT2", "SMALLINT", "MEDIUMINT", "INT", "INT4", "INT8", "INTEGER", "BIGINT"]

/-- Type keywords that take an optional `(n)`. -/
def sizedTypeKeywords : List String :=
  ["CLOB", "BINARY", "BLOB", "BYTES", "VARBIT", "DATETIME", "STRING"]

/-- `>` closing a type argument, unless a nested type already read `>>` for both. -/
def closeAngle (matched : Bool) : Parser Bool := do
  if matched then return false
  let t ← peek
  match t.token with
  | .sym ">" => advance; return false
  | .sym ">>" => advance; return true
  | _ => expected ">" t

/-- The type keyword part of a type, after its first word `kw` has been read,
given a reader for nested types; with whether a `>>` closing the enclosing type
was read. -/
def knownType (kw : String) (inner : Parser (ParsedType × Bool)) :
    Parser (Option (String × Bool)) := do
  let d ← dialect
  let plain (s : String) : Parser (Option (String × Bool)) := return some (s, false)
  if plainTypeKeywords.contains kw then return some (kw, false)
  if integerTypeKeywords.contains kw then
    let p ← optionalPrecision
    if ← parseKeyword "UNSIGNED" then return some (kw ++ p ++ " UNSIGNED", false)
    if d == .mysql then
      let _ ← parseKeyword "SIGNED"
    return some (kw ++ p, false)
  if sizedTypeKeywords.contains kw then return some (kw ++ (← optionalPrecision), false)
  match kw with
  | "FLOAT" =>
    let p ← optionalPrecisionScale
    plain ("FLOAT" ++ p ++ (← optionalUnsigned))
  | "REAL" => plain ("REAL" ++ (← optionalUnsigned))
  | "DOUBLE" =>
    if ← parseKeyword "PRECISION" then return some ("DOUBLE PRECISION" ++ (← optionalUnsigned), false)
    let p ← optionalPrecisionScale
    plain ("DOUBLE" ++ p ++ (← optionalUnsigned))
  | "VARCHAR" => plain ("VARCHAR" ++ (← optionalCharLength))
  | "NVARCHAR" => plain ("NVARCHAR" ++ (← optionalCharLength))
  | "VARBINARY" => plain ("VARBINARY" ++ (← optionalCharLength))
  | "CHARACTER" | "CHAR" =>
    if ← parseKeyword "VARYING" then return some (kw ++ " VARYING" ++ (← optionalCharLength), false)
    if ← parseKeywords ["LARGE", "OBJECT"] then
      return some (kw ++ " LARGE OBJECT" ++ (← optionalPrecision), false)
    plain (kw ++ (← optionalCharLength))
  | "BIT" =>
    if ← parseKeyword "VARYING" then return some ("BIT VARYING" ++ (← optionalPrecision), false)
    plain ("BIT" ++ (← optionalPrecision))
  | "TIMESTAMP" | "TIME" => plain (kw ++ (← timeZoneSuffix (← optionalPrecision)))
  | "TIMESTAMPTZ" => plain ("TIMESTAMPTZ" ++ (← optionalPrecision))
  | "TIMETZ" => plain ("TIMETZ" ++ (← optionalPrecision))
  | "NUMERIC" | "BIGNUMERIC" | "BIGDECIMAL" => plain (kw ++ (← optionalPrecisionScale))
  | "DECIMAL" | "DEC" =>
    let p ← optionalPrecisionScale
    plain (kw ++ p ++ (← optionalUnsigned))
  | "SIGNED" | "UNSIGNED" =>
    if ← parseKeyword "INTEGER" then return some (kw ++ " INTEGER", false)
    plain kw
  | "INTERVAL" =>
    if d == .postgres || d == .generic then
      let fields ← parseIntervalFields
      return some ("INTERVAL" ++ fields ++ (← optionalPrecision), false)
    plain "INTERVAL"
  | "ENUM" | "ENUM8" | "ENUM16" => plain (kw ++ "(" ++ ", ".intercalate (← parseEnumMembers) ++ ")")
  | "SET" => plain ("SET(" ++ ", ".intercalate (← parseSetMembers) ++ ")")
  | "FIXEDSTRING" =>
    expectSym "("
    let n ← parseLiteralUint
    expectSym ")"
    plain ("FixedString(" ++ toString n ++ ")")
  | "DATETIME64" =>
    expectSym "("
    let p ← parseLiteralUint
    let tz ←
      if ← consumeSym "," then
        let t ← next
        match t.token with
        | .singleQuoted s => pure (", '" ++ s ++ "'")
        | _ => expected "literal string" t
      else pure ""
    expectSym ")"
    plain ("DateTime64(" ++ toString p ++ tz ++ ")")
  | "ARRAY" =>
    expectSym "<"
    let (ty, matched) ← inner
    let rest ← closeAngle matched
    return some ("ARRAY<" ++ ty.type.text ++ ">", rest)
  | "NULLABLE" | "LOWCARDINALITY" =>
    if d != .generic then return none
    expectSym "("
    let (ty, _) ← inner
    expectSym ")"
    plain ((if kw == "NULLABLE" then "Nullable(" else "LowCardinality(") ++ ty.type.text ++ ")")
  | "TSVECTOR" | "TSQUERY" => if d == .postgres || d == .generic then plain kw else return none
  | "POINT" | "LINE" | "LSEG" | "BOX" | "PATH" | "POLYGON" | "CIRCLE" =>
    if d.hasGeometry then plain kw.toLower else return none
  | _ => return none

/-- A custom type: a dotted name with its modifiers. -/
def customType : Parser ParsedType := do
  let name ← parseObjectName
  let mods ← customModifiers
  return ⟨⟨name.render ++ (if mods.isEmpty then "" else "(" ++ ", ".intercalate mods ++ ")")⟩, true, false⟩

/-- `[]` and `[n]` suffixes of an array type, where the dialect has them. -/
def arraySuffixes (text : String) : Parser String := do
  let d ← dialect
  if d != .postgres && d != .generic then return text
  let fuel := (← read).tokens.size + 1
  let rec brackets : Nat → String → Parser String
    | 0, s => return s
    | k + 1, s => do
      if ← consumeSym "[" then
        let size ← maybeParse parseLiteralUint
        expectSym "]"
        brackets k (s ++ "[" ++ (match size with | some n => toString n | none => "") ++ "]")
      else return s
  brackets fuel text

mutual

/-- A type name with whether it read a `>>` that also closes the type around it;
`fuel` bounds how deeply types nest. -/
def parseDataTypeWith : Nat → Parser (ParsedType × Bool)
  | 0 => throw .recursion
  | fuel + 1 => do
    let t ← next
    let (base, matched) ← match t.token with
      | .word v none =>
        let kw := keywordText v
        if kw == "STRUCT" && (← dialect) == .generic then
          let fields ← parseStructFields fuel
          pure (⟨⟨fields.1⟩, false, false⟩, fields.2)
        else
          match ← knownType kw (parseDataTypeWith fuel) with
          | some (text, m) => pure (⟨⟨text⟩, false, kw == "INTERVAL"⟩, m)
          | none =>
            back
            pure (← customType, false)
      | .word _ (some _) =>
        back
        pure (← customType, false)
      | _ => expected "a data type name" t
    return ({ base with type := ⟨← arraySuffixes base.type.text⟩ }, matched)

/-- The fields of `STRUCT<name type, ...>` after `STRUCT`, as printed, with whether
a `>>` closing the enclosing type was read. -/
def parseStructFields : Nat → Parser (String × Bool)
  | 0 => throw .recursion
  | fuel + 1 => do
    if !(← peekSym "<") then return ("STRUCT", false)
    advance
    let rec fields : Nat → List String → Parser (List String × Bool)
      | 0, acc => return (acc.reverse, false)
      | k + 1, acc => do
        let t0 := (← peekAt 0).token
        let t1 := (← peekAt 1).token
        let named := match t0, t1 with
          | .word _ _, .word _ _ => true
          | _, _ => false
        let name ← if named then some <$> parseIdentifier else pure none
        let (ty, m) ← parseDataTypeWith fuel
        let field := (match name with | some n => n.render ++ " " | none => "") ++ ty.type.text
        if m then return ((field :: acc).reverse, true)
        if ← consumeSym "," then fields k (field :: acc) else return ((field :: acc).reverse, false)
    let (fs, m) ← fields ((← read).tokens.size + 1) []
    let rest ← closeAngle m
    return ("STRUCT<" ++ ", ".intercalate fs ++ ">", rest)

end

/-- A type name, with `[]` suffixes for array types where the dialect has them. -/
def parseDataType : Parser ParsedType := do
  return (← parseDataTypeWith ((← read).tokens.size + 1)).1

end Parser

end SqlScope.Sql
