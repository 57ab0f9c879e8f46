/-!
# SQL syntax trees

The statements this library reads, rewrites and prints. The trees keep every
choice of spelling that the printed form shows (an explicit `AS`, `LEFT JOIN`
against `LEFT OUTER JOIN`, the quote around a name), so that printing a parsed
statement gives its canonical text.

Queries and expressions refer to each other (a subquery is an expression, a
`WHERE` clause holds one), so the recursive part is one mutual family. Nested
occurrences go only through `List` and `Option`; pairs that would nest through
a product are named types of the family instead (`SelectItem`, `WhenBranch`).
-/

namespace SqlScope.Sql

/-- A name as written: its text and the opening quote, if it was quoted. -/
structure Ident where
  value : String
  quote : Option Char := none
  deriving Repr, BEq, Inhabited, DecidableEq

/-- A dotted name such as `public.tenant`, one part per identifier. -/
structure Name where
  parts : List Ident
  deriving Repr, BEq, Inhabited, DecidableEq

/-- A literal as written in the text. -/
inductive Value where
  /-- A number keeps its digits exactly as written. -/
  | number (text : String)
  | singleQuoted (text : String)
  | doubleQuoted (text : String)
  | national (text : String)
  | escaped (text : String)
  | hex (text : String)
  | byteString (text : String)
  /-- A `U&'...'` string, decoded. -/
  | unicode (text : String)
  | dollarQuoted (tag : Option String) (text : String)
  | boolean (b : Bool)
  | null
  | placeholder (text : String)
  deriving Repr, BEq, Inhabited

/-- A type name, kept as the text it prints as (`INT`, `VARCHAR(10)`). -/
structure DataType where
  text : String
  deriving Repr, BEq, Inhabited

/-- Infix operators of expressions. The comparison and logical operators are
named; every other operator is kept as the text it prints as. -/
inductive BinOp where
  | plus | minus | mul | div | modulo | concat
  | gt | lt | ge | le | eq | neq
  | and | or | xor
  | other (text : String)
  deriving Repr, BEq, Inhabited, DecidableEq

/-- Operators that may be quantified with `ANY`, `ALL` or `SOME`: the comparisons and
the pattern-matching operators. -/
def BinOp.isComparison : BinOp → Bool
  | .gt | .lt | .ge | .le | .eq | .neq => true
  | .other s => ["~", "~*", "!~", "!~*", "~~", "~~*", "!~~", "!~~*"].contains s
  | _ => false

/-- Prefix operators of expressions; `other` keeps the text of a symbolic one. -/
inductive UnaryOp where
  | not | minus | plus
  /-- The postfix factorial `e!`. -/
  | factorial
  | other (text : String)
  /-- A prefix operator written with a space before its operand: the geometric
  `#`, `@-@`, `@@`, `?-` and `?|`. -/
  | spaced (text : String)
  deriving Repr, BEq, Inhabited, DecidableEq

/-- The tests `IS [NOT] NULL`, `IS [NOT] TRUE`, `IS [NOT] FALSE`, `IS [NOT] UNKNOWN`,
and `IS [NOT] [form] NORMALIZED` with an optional Unicode normal form. -/
inductive IsTest where
  | null | notNull | true_ | notTrue | false_ | notFalse | unknown | notUnknown
  | normalized (negated : Bool) (form : Option String)
  deriving Repr, BEq, Inhabited, DecidableEq

/-- The pattern operators `LIKE`, `ILIKE`, `SIMILAR TO`, `REGEXP` and `RLIKE`. -/
inductive LikeKind where
  | like | ilike | similarTo | regexp | rlike
  deriving Repr, BEq, Inhabited, DecidableEq

/-- How a cast was written: `CAST(x AS t)`, `TRY_CAST`, `SAFE_CAST` or `x::t`. -/
inductive CastStyle where
  | cast | tryCast | safeCast | doubleColon
  deriving Repr, BEq, Inhabited, DecidableEq

/-- `ANY`, `ALL` or `SOME` before a parenthesised right side. -/
inductive Quantifier where
  | any | all | some
  deriving Repr, BEq, Inhabited, DecidableEq

/-- The operator between a named argument's name and its value. -/
inductive ArgOperator where
  | equals | rightArrow | assignment | colon
  deriving Repr, BEq, Inhabited, DecidableEq

/-- `UNION`, `EXCEPT`, `INTERSECT` or `MINUS`. -/
inductive SetOperator where
  | union | except | intersect | minus
  deriving Repr, BEq, Inhabited, DecidableEq

/-- The word after a set operator, if any. -/
inductive SetQuantifier where
  | none | all | distinct | byName | allByName | distinctByName
  deriving Repr, BEq, Inhabited, DecidableEq

/-- The keyword of a join: each spelling that prints differently is its own kind. -/
inductive JoinKind where
  | plain | inner | left | leftOuter | right | rightOuter | fullOuter | cross
  | semi | leftSemi | rightSemi | anti | leftAnti | rightAnti | straight
  deriving Repr, BEq, Inhabited, DecidableEq

/-- The word after `OFFSET n`, if any. -/
inductive OffsetRows where
  | none | row | rows
  deriving Repr, BEq, Inhabited, DecidableEq

/-- A column of a table alias, with its type when one was given. -/
structure AliasColumn where
  name : Ident
  type : Option DataType := none
  deriving Repr, BEq, Inhabited

/-- `[AS] name [(columns)]` after a table or a subquery. -/
structure TableAlias where
  explicit : Bool
  name : Ident
  columns : List AliasColumn := []
  deriving Repr, BEq, Inhabited

/-- `FETCH FIRST n [PERCENT] ROWS {ONLY | WITH TIES}` after a query; the quantity is
a literal. -/
structure Fetch where
  quantity : Option Value
  percent : Bool
  withTies : Bool
  deriving Repr, BEq, Inhabited

/-- An index hint after a table, such as `FORCE INDEX FOR JOIN (idx)`: the kind
(`USE`, `IGNORE` or `FORCE`), `INDEX` or `KEY`, what it is for, and the indexes. -/
structure IndexHint where
  kind : String
  keyword : String
  forClause : Option String
  names : List Ident
  deriving Repr, BEq, Inhabited

/-- The table a `SELECT ... INTO` creates. -/
structure SelectInto where
  temporary : Bool
  unlogged : Bool
  tableKeyword : Bool
  name : Name
  deriving Repr, BEq, Inhabited

/-- `IGNORE NULLS` or `RESPECT NULLS` on a window function. -/
inductive NullTreatment where
  | ignore | respect
  deriving Repr, BEq, Inhabited

/-- A row-locking clause such as `FOR UPDATE OF t NOWAIT`. -/
structure LockClause where
  share : Bool
  of : Option Name
  wait : Option String
  deriving Repr, BEq, Inhabited

mutual

/-- Expressions. -/
inductive Expr where
  | ident (id : Ident)
  | compound (parts : List Ident)
  | wildcard
  | qualifiedWildcard (parts : List Ident)
  | value (v : Value)
  | typedString (ty : DataType) (v : Value)
  | binary (l : Expr) (op : BinOp) (r : Expr)
  | unary (op : UnaryOp) (e : Expr)
  | nested (e : Expr)
  | isTest (e : Expr) (test : IsTest)
  | isDistinctFrom (l : Expr) (negated : Bool) (r : Expr)
  | inList (e : Expr) (negated : Bool) (items : List Expr)
  | inSubquery (e : Expr) (negated : Bool) (q : Query)
  | between (e : Expr) (negated : Bool) (lo hi : Expr)
  | like (e : Expr) (negated : Bool) (kind : LikeKind) (any : Bool) (pattern : Expr)
      (escape : Option Value)
  /-- A call: arguments, then `WITHIN GROUP (ORDER BY ...)`, `FILTER (WHERE ...)`,
  `IGNORE NULLS` or `RESPECT NULLS`, and `OVER ...`, each when written. -/
  | call (name : Name) (args : FunctionArgs) (withinGroup : List OrderByExpr)
      (filter : Option Expr) (nullTreatment : Option NullTreatment) (window : Option WindowSpec)
  | cast (style : CastStyle) (e : Expr) (ty : DataType)
  | exists (negated : Bool) (q : Query)
  | subquery (q : Query)
  | quantified (l : Expr) (op : BinOp) (quant : Quantifier) (r : Expr)
  | case (operand : Option Expr) (whens : List WhenBranch) (otherwise : Option Expr)
  | array (named : Bool) (elems : List Expr)
  | tuple (elems : List Expr)
  | interval (e : Expr) (unit : Option String)
  /-- `EXTRACT(field FROM e)`, or `EXTRACT(field, e)` when written with a comma. -/
  | extract (field : String) (comma : Bool) (e : Expr)
  | collate (e : Expr) (collation : Name)
  | atTimeZone (e : Expr) (zone : Expr)
  | position (e : Expr) (within : Expr)
  /-- `SUBSTRING(e FROM start FOR len)`; `comma` for the form with commas,
  `short` for the name `SUBSTR`. -/
  | substring (e : Expr) (start : Option Expr) (len : Option Expr) (comma short : Bool)
  | trim (where_ : Option String) (what : Option Expr) (e : Expr) (chars : List Expr)
  /-- `CEIL(e)` or `FLOOR(e)`, with the text of a `TO field` or `, scale` suffix. -/
  | ceilFloor (ceil : Bool) (e : Expr) (suffix : String)
  /-- Field access and subscripts on an expression that is not a plain dotted name,
  as in `(a).b` or `a[1]`. -/
  | fieldAccess (root : Expr) (chain : List Access)
  /-- A string with a character set introducer, as in `_utf8'text'`. -/
  | introduced (charset : Ident) (value : Value)
  /-- The JSON array membership test `value MEMBER OF(array)`. -/
  | memberOf (value : Expr) (array : Expr)
  /-- `CONVERT(e, type [CHARACTER SET cs])` or `CONVERT(e USING cs)`; with `typeFirst`
  the form `CONVERT(type, e[, style, ...])`; `TRY_CONVERT` when `isTry`. -/
  | convert (isTry : Bool) (e : Expr) (ty : Option DataType) (charset : Option Name)
      (typeFirst : Bool) (styles : List Expr)
  /-- `OVERLAY(e PLACING what FROM start [FOR len])`. -/
  | overlay (e : Expr) (what : Expr) (start : Expr) (len : Option Expr)
  /-- The full-text search `MATCH (columns) AGAINST (value [modifier])`. -/
  | matchAgainst (columns : List Name) (value : Value) (modifier : Option String)
  /-- The `GROUP BY` key `GROUPING SETS ((a), (b, c))`. -/
  | groupingSets (sets : List GroupingSet)
  /-- The `GROUP BY` key `CUBE (a, (b, c))`. -/
  | cube (sets : List GroupingSet)
  /-- The `GROUP BY` key `ROLLUP (a, (b, c))`. -/
  | rollup (sets : List GroupingSet)

/-- One set of expressions of a `GROUPING SETS`, `CUBE` or `ROLLUP`. -/
inductive GroupingSet where
  | mk (items : List Expr)

/-- One step of a compound access: `.field`, a subscript `[i]`, or a slice
`[lower:upper:stride]` whose bounds may each be left out. -/
inductive Access where
  | dot (field : Expr)
  | index (i : Expr)
  | slice (lower upper stride : Option Expr)

/-- One `WHEN condition THEN result` of a `CASE`. -/
inductive WhenBranch where
  | mk (cond : Expr) (result : Expr)

/-- The part of a call after the function name. -/
inductive FunctionArgs where
  /-- No parentheses at all, as in `CURRENT_TIMESTAMP`. -/
  | none
  | subquery (q : Query)
  /-- An argument list, with `DISTINCT` or `ALL` before it when written and the
  clauses that follow the arguments inside the parentheses. -/
  | list (distinct : Option Bool) (args : List FunctionArg) (clauses : List ArgClause)

/-- A clause inside a call's parentheses after its arguments. -/
inductive ArgClause where
  | nullTreatment (t : NullTreatment)
  | orderBy (keys : List OrderByExpr)
  | limit (e : Expr)
  /-- `HAVING MAX e` or `HAVING MIN e`. -/
  | having (max : Bool) (e : Expr)
  | separator (v : Value)
  | onOverflowError
  /-- `ON OVERFLOW TRUNCATE [filler] {WITH | WITHOUT} COUNT`. -/
  | onOverflowTruncate (filler : Option Expr) (withCount : Bool)
  /-- `ABSENT ON NULL` or `NULL ON NULL`. -/
  | jsonNull (absent : Bool)
  | returning (ty : DataType)

/-- One argument of a call. -/
inductive FunctionArg where
  | unnamed (e : Expr)
  | named (name : Ident) (op : ArgOperator) (e : Expr)

/-- The window of `OVER (...)`, or a named window. -/
inductive WindowSpec where
  | named (name : Ident)
  | spec (name : Option Ident) (partitionBy : List Expr) (orderBy : List OrderByExpr)
      (frame : Option WindowFrame)

/-- One end of a window frame: the current row, or an offset before or after it,
where no offset means `UNBOUNDED`. -/
inductive FrameBound where
  | currentRow
  | preceding (offset : Option Expr)
  | following (offset : Option Expr)

/-- The frame of a window: its units (`ROWS`, `RANGE` or `GROUPS`), its start, and
its end when it is written with `BETWEEN`. -/
inductive WindowFrame where
  | mk (units : String) (start : FrameBound) (finish : Option FrameBound)

/-- One key of an `ORDER BY`. -/
inductive OrderByExpr where
  | mk (e : Expr) (asc : Option Bool) (nullsFirst : Option Bool)

/-- A whole query: common table expressions, body, ordering, limits, `FETCH`, row
locks, and a closing `FOR XML`, `FOR JSON` or `FOR BROWSE` clause kept as its
canonical text. -/
inductive Query where
  | mk (recursive : Bool) (ctes : List Cte) (body : SetExpr) (orderBy : List OrderByExpr)
      (limit : Limit) (fetch : Option Fetch) (locks : List LockClause) (forClause : Option String)

/-- One common table expression `name AS (query)`. -/
inductive Cte where
  | mk (aliasName : TableAlias) (materialized : Option Bool) (q : Query)

/-- `LIMIT` and `OFFSET` of a query. -/
inductive Limit where
  | none
  | limitOffset (limit : Option Expr) (offset : Option Expr) (rowsWord : OffsetRows)
  /-- The comma form `LIMIT offset, limit`. -/
  | offsetComma (offset : Expr) (limit : Expr)

/-- The body of a query. -/
inductive SetExpr where
  | select (s : Select)
  /-- A parenthesised query. -/
  | query (q : Query)
  | setOp (op : SetOperator) (quant : SetQuantifier) (l : SetExpr) (r : SetExpr)
  | values (explicitRow : Bool) (valueKeyword : Bool) (rows : List Row)
  | table (name : Name)
  /-- A data-modifying statement (`INSERT`, `UPDATE`, `DELETE`, `MERGE`) read where
  a query may stand, kept as its canonical text: no rule looks inside it. -/
  | dml (text : String)

/-- One row of a `VALUES` list. -/
inductive Row where
  | mk (items : List Expr)

/-- `DISTINCT` and its variants before a projection. -/
inductive Distinct where
  | none | distinct | all
  | on (exprs : List Expr)

/-- A `TOP n` clause. -/
inductive Top where
  | mk (quantity : Option Expr) (parenthesised : Bool) (percent : Bool) (withTies : Bool)

/-- One item of a projection. A wildcard `*` or `name.*` keeps the options written
after it (`EXCLUDE (...)`, `REPLACE (...)`, ...) as their canonical text. -/
inductive SelectItem where
  | expr (e : Expr)
  | aliased (e : Expr) (aliasName : Ident)
  | wildcard (e : Expr) (options : List String)

/-- A `SELECT` block. Its named windows and `QUALIFY` print in the order they were
written: `windowFirst` says whether `WINDOW` came first. The clauses that follow
`FROM` before `WHERE` (`LATERAL VIEW`, `PREWHERE`) and those that follow `GROUP BY`
(`CLUSTER BY`, `DISTRIBUTE BY`, `SORT BY`) are kept as their canonical text: no
rule looks inside them. -/
inductive Select where
  | mk (distinct : Distinct) (top : Option Top) (topFirst : Bool) (projection : List SelectItem)
      (from_ : List TableWithJoins) (selection : Option Expr) (groupBy : GroupBy)
      (having : Option Expr) (windows : List NamedWindow) (qualify : Option Expr)
      (windowFirst : Bool) (into : Option SelectInto) (fromClauses : List String)
      (distribution : List String)

/-- A `GROUP BY` clause: `GROUP BY ALL` or a list of keys (empty when there is no
clause), each followed by its modifiers. -/
inductive GroupBy where
  | all (modifiers : List GroupByModifier)
  | keys (items : List Expr) (modifiers : List GroupByModifier)

/-- A modifier after the keys of a `GROUP BY`: `WITH ROLLUP`, `WITH CUBE`,
`WITH TOTALS`, or a trailing `GROUPING SETS (...)`. -/
inductive GroupByModifier where
  | rollup | cube | totals
  | groupingSets (e : Expr)

/-- A window of a `WINDOW` clause, `name AS (spec)` or `name AS other`. -/
inductive NamedWindow where
  | mk (name : Ident) (spec : WindowSpec)

/-- A table source followed by its joins. -/
inductive TableWithJoins where
  | mk (relation : TableFactor) (joins : List Join)

/-- A table sample clause such as `TABLESAMPLE SYSTEM (10)`: the introducing
keyword, the sampling method, the quantity (parenthesised or not, with its unit)
and the seed clause. -/
inductive TableSample where
  | mk (keyword : String) (method : Option String) (quantity : Option Expr) (parenthesised : Bool)
      (unit : Option String) (seedKeyword : String) (seed : Option Expr)

/-- One source of rows in a `FROM` list or a join. -/
inductive TableFactor where
  /-- A named table, or a table-valued function when it has arguments. -/
  | table (name : Name) (partitions : List Ident) (args : Option (List FunctionArg))
      (aliasName : Option TableAlias) (indexHints : List IndexHint) (hints : List Expr)
      (version : Option Expr) (sample : Option TableSample) (withOrdinality : Bool)
  | derived (lateral : Bool) (q : Query) (aliasName : Option TableAlias)
  /-- A parenthesised join group. -/
  | nested (t : TableWithJoins) (aliasName : Option TableAlias)
  | unnest (exprs : List Expr) (aliasName : Option TableAlias) (withOrdinality : Bool)
  | function (lateral : Bool) (name : Name) (args : List FunctionArg) (aliasName : Option TableAlias)
  | tableFunction (e : Expr) (aliasName : Option TableAlias)
  /-- A table function with a column grammar of its own (`JSON_TABLE(...)`,
  `OPENJSON(...) WITH (...)`), kept as its canonical text: no rule looks inside it. -/
  | columnsFunction (text : String) (aliasName : Option TableAlias)
  /-- `t PIVOT (aggregates FOR columns IN (values) [DEFAULT ON NULL (e)]) [alias]`:
  one column for each value of `columns`. -/
  | pivot (t : TableFactor) (aggregates : List AliasedExpr) (columns : List Expr)
      (values : PivotValues) (defaultOnNull : Option Expr) (aliasName : Option TableAlias)
  /-- `t UNPIVOT [INCLUDE NULLS | EXCLUDE NULLS] (value FOR name IN (columns)) [alias]`:
  one row for each of `columns`; `includeNulls` is the choice written, if any. -/
  | unpivot (t : TableFactor) (includeNulls : Option Bool) (value : Expr) (name : Ident)
      (columns : List AliasedExpr) (aliasName : Option TableAlias)

/-- An expression with an optional name, `e [AS name]`. -/
inductive AliasedExpr where
  | mk (e : Expr) (name : Option Ident)

/-- The values a `PIVOT` turns into columns: a list, `ANY [ORDER BY ...]`, or a
query. -/
inductive PivotValues where
  | list (values : List AliasedExpr)
  | any (orderBy : List OrderByExpr)
  | query (q : Query)

/-- A join: the joined source and how it is joined. -/
inductive Join where
  | mk (relation : TableFactor) (op : JoinOperator)

/-- How a join combines rows. -/
inductive JoinOperator where
  | join (kind : JoinKind) (c : JoinConstraint)
  | crossApply
  | outerApply
  | asOf (matchCondition : Expr) (c : JoinConstraint)

/-- The condition of a join. -/
inductive JoinConstraint where
  | on (e : Expr)
  | using (cols : List Name)
  | natural
  | none

end

instance : Inhabited Expr := ⟨.wildcard⟩
instance : Inhabited Query := ⟨.mk false [] (.table ⟨[]⟩) [] .none none [] none⟩
instance : Inhabited TableFactor := ⟨.table ⟨[]⟩ [] none none [] [] none none false⟩

/-- The alias written on a source. -/
def TableFactor.aliasOf : TableFactor → Option TableAlias
  | .table _ _ _ a _ _ _ _ _ | .derived _ _ a | .nested _ a | .unnest _ a _ | .function _ _ _ a
  | .tableFunction _ a | .columnsFunction _ a | .pivot _ _ _ _ _ a | .unpivot _ _ _ _ _ a => a

/-- The source with its alias replaced. -/
def TableFactor.withAlias (a : Option TableAlias) : TableFactor → TableFactor
  | .table nm ps args _ ih hints v sample ord => .table nm ps args a ih hints v sample ord
  | .derived l q _ => .derived l q a
  | .nested t _ => .nested t a
  | .unnest es _ ord => .unnest es a ord
  | .function l nm args _ => .function l nm args a
  | .tableFunction e _ => .tableFunction e a
  | .columnsFunction text _ => .columnsFunction text a
  | .pivot t aggs cols vs dflt _ => .pivot t aggs cols vs dflt a
  | .unpivot t nulls v nm cols _ => .unpivot t nulls v nm cols a
instance : Inhabited TableWithJoins := ⟨.mk default []⟩

/-- The left side of an assignment: one column, or a parenthesised list of columns. -/
inductive AssignTarget where
  | column (name : Name)
  | tuple (names : List Name)
  deriving Inhabited

/-- `column = value` in a `SET` list. -/
structure Assignment where
  target : AssignTarget
  value : Expr
  deriving Inhabited

/-- What an `INSERT` does when a row conflicts. -/
inductive OnInsert where
  | duplicateKeyUpdate (sets : List Assignment)
  | onConflict (target : Option (List Ident)) (onConstraint : Option Name)
      (doUpdate : Option (List Assignment × Option Expr))
  deriving Inhabited

/-- An `INSERT` or `REPLACE` statement. -/
structure Insert where
  /-- The conflict clause of `INSERT OR REPLACE` and its kin, without the `OR`. -/
  orClause : Option String := none
  replace : Bool := false
  /-- A priority word such as `LOW_PRIORITY`. -/
  priority : Option String := none
  ignore : Bool := false
  into : Bool := true
  tableKeyword : Bool := false
  table : Name
  aliasName : Option Ident := none
  columns : List Ident := []
  source : Option Query := none
  assignments : List Assignment := []
  /-- The row alias of `VALUES (...) AS new (a, b)`, with its column names. -/
  rowAlias : Option (Name × List Ident) := none
  on : Option OnInsert := none
  returning : Option (List SelectItem) := none
  deriving Inhabited

/-- Where the `FROM` list of an `UPDATE` stands. -/
inductive UpdateFrom where
  | beforeSet (tables : List TableWithJoins)
  | afterSet (tables : List TableWithJoins)
  deriving Inhabited

/-- An `UPDATE` statement. -/
structure Update where
  /-- The conflict clause of `UPDATE OR REPLACE` and its kin, without the `OR`. -/
  orClause : Option String := none
  table : TableWithJoins
  assignments : List Assignment
  from_ : Option UpdateFrom := none
  selection : Option Expr := none
  returning : Option (List SelectItem) := none
  limit : Option Expr := none
  deriving Inhabited

/-- A `DELETE` statement. -/
structure Delete where
  /-- The tables named between `DELETE` and `FROM`, as in `DELETE t1 FROM ...`. -/
  tables : List Name := []
  /-- Whether the `FROM` keyword was written. -/
  fromKeyword : Bool := true
  from_ : List TableWithJoins
  usingTables : Option (List TableWithJoins) := none
  selection : Option Expr := none
  returning : Option (List SelectItem) := none
  orderBy : List OrderByExpr := []
  limit : Option Expr := none
  deriving Inhabited

/-- A parsed statement. -/
inductive Statement where
  | query (q : Query)
  | insert (i : Insert)
  | update (u : Update)
  | delete (d : Delete)
  /-- Any other statement, kept as its canonical text: no rule looks inside it. -/
  | other (text : String)
  deriving Inhabited

/-- The five kinds of statement that rules are written for. -/
inductive StatementKind where
  | select | insert | update | delete | other
  deriving Repr, BEq, Inhabited, DecidableEq

/-- Queries are selects; the four other kinds follow the statement. -/
def Statement.kind : Statement → StatementKind
  | .query _ => .select
  | .insert _ => .insert
  | .update _ => .update
  | .delete _ => .delete
  | .other _ => .other

/-- The lower-case name of a statement kind. -/
def StatementKind.name : StatementKind → String
  | .select => "select"
  | .insert => "insert"
  | .update => "update"
  | .delete => "delete"
  | .other => "other"

namespace Select

def distinct : Select → Distinct | .mk d .. => d
def top : Select → Option Top | .mk _ t .. => t
def projection : Select → List SelectItem | .mk _ _ _ p .. => p
def from_ : Select → List TableWithJoins | .mk _ _ _ _ f .. => f
def selection : Select → Option Expr | .mk _ _ _ _ _ w .. => w

/-- The same block with another `FROM` list. -/
def withFrom (s : Select) (f : List TableWithJoins) : Select :=
  match s with
  | .mk d t tf p _ w g h nw q wf i fc ds => .mk d t tf p f w g h nw q wf i fc ds

/-- The same block with another `WHERE` condition. -/
def withSelection (s : Select) (w : Option Expr) : Select :=
  match s with
  | .mk d t tf p f _ g h nw q wf i fc ds => .mk d t tf p f w g h nw q wf i fc ds

end Select

namespace Query

def ctes : Query → List Cte | .mk _ c .. => c
def body : Query → SetExpr | .mk _ _ b .. => b

/-- The same query with other common table expressions and another body. -/
def withParts (q : Query) (ctes : List Cte) (body : SetExpr) : Query :=
  match q with
  | .mk r _ _ o l ft k fc => .mk r ctes body o l ft k fc

end Query

end SqlScope.Sql
