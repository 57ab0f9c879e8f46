import SqlScope.Scope.Condition
import SqlScope.Scope.Error

/-!
# Adding a column to inserts

An insert into a scoped table gets one more column, and every row it inserts one
more value. Only an insert with an explicit column list and a `VALUES` list can
take it; the column must not be listed already.

The value goes at the end of every row. A single row whose first item is a
function call is read as a row of calls with argument lists (one call per
column, as some clients write rows); there the value becomes the last argument
of every call, and every item must be such a call.
-/

namespace SqlScope.Scope

open SqlScope.Sql

/-- A column, with its value, that inserts into one table must set. -/
structure ColumnFill where
  target : TableTarget
  column : Ident
  value : Literal
  deriving Repr, Inhabited

/-- What an insert's rows come from, as named in errors. -/
def sourceKind : SetExpr → String
  | .select _ => "SELECT"
  | .query _ => "subquery"
  | .setOp .. => "set operation"
  | .values .. => "VALUES"
  | .table _ | .dml _ => "statement"

/-- Whether an expression is a call with an argument list. -/
def isCallWithArgs : Expr → Bool
  | .call _ (.list ..) .. => true
  | _ => false

/-- Whether an expression is a function call of any form. -/
def isCall : Expr → Bool
  | .call .. => true
  | _ => false

/-- The call with one more unnamed argument at the end of its list. -/
def appendArgument (v : Expr) : Expr → Expr
  | .call name (.list d args clauses) wg filter nt window =>
    .call name (.list d (args ++ [.unnamed v]) clauses) wg filter nt window
  | e => e

/-- The rows with the value `v` added, or why they cannot take it. -/
def appendValue (table : String) (v : Expr) (rows : List Row) : Except RewriteError (List Row) :=
  match rows with
  | [] => pure [.mk [v]]
  | [.mk items] =>
    match items.head? with
    | some first =>
      if !isCall first then pure [.mk (items ++ [v])]
      else match items.find? (fun e => !isCallWithArgs e) with
        | some bad => throw (.unsupportedValuesShape table
            ("`" ++ bad.render ++ "` is not a call with an argument list"))
        | none => pure [.mk (items.map (appendArgument v))]
    | none => pure [.mk [v]]
  | rows => pure (rows.map fun | .mk items => .mk (items ++ [v]))

namespace ColumnFill

/-- The insert with the column added, `none` when it inserts into another table,
or why the column cannot be added. -/
def apply (c : ColumnFill) (ins : Insert) : Except RewriteError (Option Insert) := do
  if !c.target.refersTo ins.table none then return none
  let table := ins.table.render
  if ins.columns.isEmpty then
    throw (.unsupportedValuesShape table "statement has no column list")
  if ins.columns.any (fun col => namesEqual col.value c.column.value) then
    throw (.unsupportedValuesShape table ("column " ++ c.column.render ++ " is already listed"))
  let some src := ins.source | throw (.missingInsertSource table)
  match src with
  | .mk r cs body o l ft k fc =>
    match body with
    | .values explicitRow kw rows =>
      let rows ← appendValue table c.value.toExpr rows
      return some { ins with
        source := some (.mk r cs (.values explicitRow kw rows) o l ft k fc)
        columns := ins.columns ++ [c.column] }
    | other => throw (.unsupportedInsertSource table (sourceKind other))

end ColumnFill

end SqlScope.Scope
