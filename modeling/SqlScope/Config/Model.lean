import SqlScope.Scope.Rule
import SqlScope.Sql.Dialect
import SqlScope.Json

/-!
# Rules files

A rules file names the SQL dialect, the logging defaults and a list of rules. A
rule adds a condition on a table to the statements of one kind, adds a column to
inserts into a table, or groups rules of those two kinds to run as one.

Some mistakes pass the reader but leave a rule that cannot work: an empty table
or column name, a value with no SQL literal form, an empty group, or a group
inside a group. `problems` lists them all, each with the place of its rule, and
the rules are built into engine rules only when there is none.
-/

namespace SqlScope.Config

open SqlScope.Sql SqlScope.Scope SqlScope.Number SqlScope.Text

/-- A scalar written in a rules file, keeping the type it was written with. -/
inductive RuleValue where
  | null
  | boolean (b : Bool)
  /-- A 64-bit signed integer. -/
  | integer (n : Int)
  | float (x : Binary64)
  | text (s : String)
  deriving Repr, BEq, Inhabited

namespace RuleValue

def toLiteral : RuleValue → Literal
  | .null => .null
  | .boolean b => .boolean b
  | .integer n => .integer n
  | .float x => .float x
  | .text s => .text s

/-- The value as JSON; a float with no finite value is `null`. -/
def toJson : RuleValue → Json
  | .null => .null
  | .boolean b => .bool b
  | .integer n => .number (.int n)
  | .float x => if x.isFinite then .number (.float x) else .null
  | .text s => .string s

end RuleValue

/-- A rule adding `table.column = value` to statements of one kind. -/
structure ConditionDef where
  statement : ConditionKind
  table : String
  column : String
  value : RuleValue
  priority : Option Int
  deriving Repr, Inhabited

/-- A rule adding `column` with `value` to inserts into `table`. -/
structure ColumnDef where
  table : String
  column : String
  value : RuleValue
  priority : Option Int
  deriving Repr, Inhabited

/-- An entry of the rules list. -/
inductive RuleDef where
  | addCondition (d : ConditionDef)
  | addColumn (d : ColumnDef)
  | combined (rules : List RuleDef) (priority : Option Int)
  deriving Repr, Inhabited

structure LoggingConfig where
  level : String := "info"
  deriving Repr, Inhabited

/-- A whole rules file. -/
structure RewriteConfig where
  dialect : Dialect := .postgres
  logging : LoggingConfig := {}
  rules : List RuleDef := []
  deriving Repr, Inhabited

namespace RuleDef

/-- The priority the entry sets, if any. -/
def priority : RuleDef → Option Int
  | .addCondition d => d.priority
  | .addColumn d => d.priority
  | .combined _ p => p

def isCombined : RuleDef → Bool
  | .combined .. => true
  | _ => false

/-- The problems of a condition or column rule at `location`: empty names, and a
value with no SQL literal form. -/
def leafProblems (location : String) (table column : String) (value : RuleValue) : List String :=
  (if (trim table).isEmpty then [location ++ ": table must not be empty"] else []) ++
  (if (trim column).isEmpty then [location ++ ": column must not be empty"] else []) ++
  (match value with
   | .float x => if x.isFinite then [] else [location ++ ": value " ++ x.positional ++ " has no SQL literal form"]
   | _ => [])

/-- The problems of a rule at `location`; a group has none of its own here. -/
def ownProblems (location : String) : RuleDef → List String
  | .addCondition d => leafProblems location d.table d.column d.value
  | .addColumn d => leafProblems location d.table d.column d.value
  | .combined .. => []

/-- The problems of a top-level rule at `location`, including those of the rules
it groups. -/
def problems (location : String) : RuleDef → List String
  | .combined rules _ =>
    (if rules.isEmpty then [location ++ ": combined rule has no sub-rules"] else []) ++
    (rules.zipIdx.flatMap fun (r, j) =>
      let sub := location ++ ".rules[" ++ toString j ++ "]"
      if r.isCombined then [sub ++ ": combined rules cannot be nested"] else r.ownProblems sub)
  | r => r.ownProblems location

/-- The number of rules it runs: a group counts its members. -/
def leafCount : RuleDef → Nat
  | .combined rules _ => rules.length
  | _ => 1

/-- The entry as JSON, with its keys in order. -/
def toJson : RuleDef → Json
  | .addCondition d => .object (Json.sortKeys [
      ("kind", .string "add_condition"), ("statement", .string d.statement.name),
      ("table", .string d.table), ("column", .string d.column), ("value", d.value.toJson),
      ("priority", match d.priority with | some p => .number (.int p) | none => .null)])
  | .addColumn d => .object (Json.sortKeys [
      ("kind", .string "add_column"), ("table", .string d.table), ("column", .string d.column),
      ("value", d.value.toJson),
      ("priority", match d.priority with | some p => .number (.int p) | none => .null)])
  | .combined rules p => .object (Json.sortKeys [
      ("kind", .string "combined"), ("rules", .array (rules.map toJson)),
      ("priority", match p with | some p => .number (.int p) | none => .null)])

/-- The typed rule of a condition or column entry. -/
def toTyped : RuleDef → Except String TypedRule
  | .addCondition d =>
    let r := ConditionRule.new d.statement d.table d.column d.value.toLiteral
    .ok (match d.priority with
      | some p => (r.withPriority p).toTyped
      | none => r.toTyped)
  | .addColumn d =>
    let r := ColumnRule.new d.table d.column d.value.toLiteral
    .ok (match d.priority with
      | some p => (r.withPriority p).toTyped
      | none => r.toTyped)
  | .combined .. => .error "combined rules cannot be nested"

/-- The engine rule of an entry. -/
def toRule : RuleDef → Except String Rule
  | .combined rules p => do
    let typed ← rules.mapM toTyped
    pure (Rule.combined typed p)
  | r => Rule.ofTyped <$> r.toTyped

end RuleDef

namespace RewriteConfig

/-- Every problem of the rules, in order, each prefixed with the place of its rule. -/
def problems (c : RewriteConfig) : List String :=
  c.rules.zipIdx.flatMap fun (r, i) => r.problems ("rules[" ++ toString i ++ "]")

/-- The first problem, if any. -/
def validate (c : RewriteConfig) : Option String := c.problems.head?

def leafRuleCount (c : RewriteConfig) : Nat := (c.rules.map RuleDef.leafCount).foldr (· + ·) 0

/-- The engine rules of the file, in the order written, once it has no problem. -/
def buildRules (c : RewriteConfig) : Except String (List Rule) :=
  match c.validate with
  | some p => .error p
  | none => c.rules.mapM RuleDef.toRule

/-- The file as JSON, with every key in order. -/
def toJson (c : RewriteConfig) : Json :=
  .object [("dialect", .string c.dialect.name),
    ("logging", .object [("level", .string c.logging.level)]),
    ("rules", .array (c.rules.map RuleDef.toJson))]

end RewriteConfig

end SqlScope.Config
