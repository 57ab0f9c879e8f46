import SqlScope.Scope.Names
import SqlScope.Scope.Literal

/-!
# Conditions and predicate slots

A condition is `table.column = value` for one table reference. Adding one to a
`WHERE` or `ON` slot keeps what was there: an empty slot takes the condition as it
is, and an existing predicate is parenthesised and joined to it with `AND`, so
that an `OR` inside the old predicate cannot capture the new term.
-/

namespace SqlScope.Scope

open SqlScope.Sql

/-- The equality `table.column = value`. -/
structure Condition where
  table : Ident
  column : Ident
  value : Literal
  deriving Repr, BEq, Inhabited

namespace Condition

/-- The condition for configured table and column names. -/
def ofNames (table column : String) (value : Literal) : Condition :=
  ⟨identOfName table, identOfName column, value⟩

/-- The same column and value, qualified by another table reference. -/
def withTable (c : Condition) (qualifier : Ident) : Condition := { c with table := qualifier }

/-- The condition as a predicate. -/
def toExpr (c : Condition) : Expr := .binary (.compound [c.table, c.column]) .eq c.value.toExpr

end Condition

/-- Adds a predicate to what a slot holds: `(existing) AND predicate`, or the
predicate alone in an empty slot. -/
def conjoin : Option Expr → Expr → Expr
  | none, p => p
  | some e, p => .binary (.nested e) .and p

/-- The slot after a predicate is added to it. -/
def addPredicate (slot : Option Expr) (p : Expr) : Option Expr := some (conjoin slot p)

end SqlScope.Scope
