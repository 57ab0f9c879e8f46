import SqlScope.Sql.Syntax
import SqlScope.Number.Shortest
import SqlScope.Calendar

/-!
# Literal values

The values a rule compares a column with or inserts into it, and the SQL literal
each one is written as: integers in decimal, floating-point numbers by their
shortest digits without an exponent, text in single quotes, and dates and times
as quoted text. A floating-point number with no literal form (an infinity or
not-a-number) is written as `NULL`.
-/

namespace SqlScope.Scope

open SqlScope.Sql SqlScope.Number

/-- A value that can be written as a SQL literal. -/
inductive Literal where
  | null
  /-- A 64-bit signed integer. -/
  | integer (n : Int)
  | float (x : Binary64)
  | text (s : String)
  | boolean (b : Bool)
  | date (d : Date)
  | time (t : TimeOfDay)
  | timestamp (d : Date) (t : TimeOfDay)
  deriving Repr, BEq, Inhabited

namespace Literal

/-- The SQL value a literal is written as. -/
def toValue : Literal → Value
  | .null => .null
  | .integer n => .number (toString n)
  | .float x => if x.isFinite then .number x.positional else .null
  | .text s => .singleQuoted s
  | .boolean b => .boolean b
  | .date d => .singleQuoted d.text
  | .time t => .singleQuoted t.text
  | .timestamp d t => .singleQuoted (d.text ++ " " ++ t.text)

/-- The literal as an expression. -/
def toExpr (l : Literal) : Expr := .value l.toValue

end Literal

end SqlScope.Scope
