import SqlScope.Text.Unicode

/-!
# SQL dialects

The six dialects a rules file can name, the names they are written with, and the
lexical differences between them: which characters start and continue an
identifier, which quote characters delimit an identifier, and which string forms
accept backslash escapes.
-/

namespace SqlScope.Sql

open SqlScope.Text

inductive Dialect where
  | generic | postgres | mysql | sqlite | mssql | ansi
  deriving Repr, BEq, DecidableEq, Inhabited

namespace Dialect

/-- Every dialect, in the order they are listed to the user. -/
def all : List Dialect := [.generic, .postgres, .mysql, .sqlite, .mssql, .ansi]

/-- The canonical lower-case name. -/
def name : Dialect → String
  | .generic => "generic" | .postgres => "postgres" | .mysql => "mysql"
  | .sqlite => "sqlite" | .mssql => "mssql" | .ansi => "ansi"

/-- Reads a dialect name: surrounding whitespace is ignored, ASCII case does not
matter, and `postgresql`, `pg` and `sqlserver` are accepted as other names. -/
def parse (s : String) : Except String Dialect :=
  let wanted := asciiLowercase (trim s)
  if wanted == "postgresql" || wanted == "pg" then .ok .postgres
  else if wanted == "sqlserver" then .ok .mssql
  else match all.find? (fun d => d.name == wanted) with
    | some d => .ok d
    | none => .error ("unknown dialect '" ++ s ++ "' (expected one of: " ++
        ", ".intercalate (all.map name) ++ ")")

/-- Characters that may begin an unquoted identifier. PostgreSQL and MySQL take
every character beyond ASCII; SQLite takes those of the Basic Multilingual Plane. -/
def isIdentStart (d : Dialect) (c : Char) : Bool :=
  match d with
  | .generic | .mssql => isAlphabetic c || c == '_' || c == '#' || c == '@'
  | .postgres => isAlphabetic c || c == '_' || 0x80 ≤ c.toNat
  | .mysql => isAlphabetic c || c == '_' || c == '$' || c == '@' || 0x80 ≤ c.toNat
  | .sqlite => c.isAlpha || c == '_' || (0x7F ≤ c.toNat && c.toNat ≤ 0xFFFF)
  | .ansi => c.isAlpha

/-- Characters that may continue an unquoted identifier. -/
def isIdentPart (d : Dialect) (c : Char) : Bool :=
  match d with
  | .generic | .mssql => isAlphabetic c || c.isDigit || c == '@' || c == '$' || c == '#' || c == '_'
  | .postgres => isAlphabetic c || c.isDigit || c == '$' || c == '_' || 0x80 ≤ c.toNat
  | .mysql | .sqlite => d.isIdentStart c || c.isDigit
  | .ansi => c.isAlpha || c.isDigit || c == '_'

/-- Whether `$name` is always a placeholder, so that `$$` opens no quoted string. -/
def dollarPlaceholders : Dialect → Bool
  | .sqlite => true
  | _ => false

/-- Quote characters that open a quoted identifier. -/
def isDelimitedStart (d : Dialect) (c : Char) : Bool :=
  match d with
  | .generic | .ansi => c == '"' || c == '`'
  | .postgres => c == '"'
  | .mysql => c == '`'
  | .sqlite => c == '`' || c == '"' || c == '['
  | .mssql => c == '"' || c == '['

/-- Whether the operators on geometric values exist (`<->`, `##`, `?-|`, `@-@` and
their kin), together with the geometric type names. -/
def hasGeometry : Dialect → Bool
  | .postgres => true
  | _ => false

/-- Characters from which a user may build operators of their own: a run of them
after an operator joins it into one operator. -/
def isCustomOperatorPart (d : Dialect) (c : Char) : Bool :=
  d == .postgres && "+-*/<>=~!@#%^&|`?".contains c

/-- Whether underscores may separate the digits of a number (`1_000`). -/
def hasDigitSeparators : Dialect → Bool
  | .postgres => true
  | _ => false

/-- Whether a carriage return ends a line comment. -/
def returnEndsComment : Dialect → Bool
  | .postgres => true
  | _ => false

/-- Whether `expr NOTNULL` tests for a value, as `IS NOT NULL` does. -/
def hasNotNullOperator : Dialect → Bool
  | .postgres | .sqlite => true
  | _ => false

/-- Whether an interval value must be followed by its unit (`INTERVAL '1' DAY`). -/
def requiresIntervalUnit : Dialect → Bool
  | .mysql | .ansi => true
  | _ => false

/-- Whether `TRUE` and `FALSE` are literals rather than names. -/
def hasBooleanLiterals : Dialect → Bool
  | .mssql => false
  | _ => true

/-- Whether a backslash escapes the next character inside a quoted string. -/
def backslashEscapes : Dialect → Bool
  | .mysql => true
  | _ => false

/-- Whether `E'...'` strings with C-style escapes exist. -/
def hasEscapeStrings : Dialect → Bool
  | .postgres | .generic => true
  | _ => false

/-- Whether `U&'...'` strings with Unicode escapes exist. -/
def hasUnicodeStrings : Dialect → Bool
  | .postgres | .generic => true
  | _ => false

/-- Whether `TRY_CONVERT(...)` is a conversion rather than a plain call. -/
def hasTryConvert : Dialect → Bool
  | .mssql | .generic => true
  | _ => false

/-- Whether `MATCH (columns) AGAINST (value)` is a full-text search. -/
def hasMatchAgainst : Dialect → Bool
  | .mysql | .generic => true
  | _ => false

/-- Whether `B'...'` byte strings exist. -/
def hasByteStrings : Dialect → Bool
  | .postgres | .mysql | .generic => true
  | _ => false

/-- Whether adjacent string literals (`'a' "b"`) form one string. -/
def concatenatesStrings : Dialect → Bool
  | .mysql => true
  | _ => false

/-- Whether block comments nest. -/
def nestsComments : Dialect → Bool
  | .postgres | .generic => true
  | _ => false

/-- Whether `#` starts a line comment. -/
def hashComments : Dialect → Bool
  | .mysql => true
  | _ => false

/-- Whether `--` starts a comment only when a space follows it. -/
def commentNeedsSpace : Dialect → Bool
  | .mysql => true
  | _ => false

/-- Whether an identifier may begin with digits (`1abc`). -/
def numericPrefixIdents : Dialect → Bool
  | .mysql => true
  | _ => false

/-- Whether a backslash before `%` or `_` is kept inside a string. -/
def keepsWildcardEscapes : Dialect → Bool
  | .mysql => true
  | _ => false

/-- Whether a `GROUP BY` key may be `GROUPING SETS (...)`, `CUBE (...)`, `ROLLUP (...)`
or the empty set `()`. -/
def hasGroupByExpr : Dialect → Bool
  | .postgres | .generic => true
  | _ => false

/-- Whether `FILTER (WHERE ...)` may follow an aggregate call. -/
def hasAggregateFilter : Dialect → Bool
  | .postgres | .generic | .sqlite => true
  | _ => false

/-- Whether a modifier such as `DEFERRED` may follow `BEGIN`. -/
def hasTransactionModifier : Dialect → Bool
  | .sqlite | .mssql | .generic => true
  | _ => false

end Dialect

end SqlScope.Sql
