import SqlScope.Proofs.Placement

/-!
# What a query returns

A bag semantics for the `SELECT` statements a filter is meant for: `FROM` lists of
tables and parenthesised join groups, inner, cross, left, right and full joins with
an `ON` clause or none, and `WHERE` conditions built from comparisons, `AND`, `OR`,
`NOT` and correlated `EXISTS` and `IN` subqueries.

Values are abstract (`Domain`): a literal denotes a value or `NULL`, and the
comparisons are a parameter. Conditions take three truth values, `Option Bool`
with `none` for unknown, combined as in Kleene's logic; a row passes a `WHERE` or
`ON` clause when its condition is true. A block returns the bag, in order, of the
range-variable rows its `FROM` list and `WHERE` give; the projection is a function
of them.

The evaluator takes an optional filter. With one, every table reference the filter
refers to reads only the rows of its table that satisfy the filter's condition:
this is the meaning a scoped statement should have.
-/

namespace SqlScope.Scope.Rows

open SqlScope.Sql SqlScope.Scope

/-- What values and comparisons mean. -/
structure Domain where
  /-- The non-null values. -/
  V : Type
  /-- The value a literal denotes, `none` for `NULL`. -/
  lit : Value → Option V
  /-- A comparison between two non-null values. -/
  cmp : BinOp → V → V → Bool

variable {D : Domain}

/-- A row of a table: its value in each column, `none` for `NULL`. -/
abbrev Row (D : Domain) := Ident → Option D.V

/-- A range variable with the columns of its table and its current row; an outer
join fills a missing row with nulls (`row = none`). -/
structure Binding (D : Domain) where
  name : Ident
  columns : List Ident
  row : Option (Row D)

/-- The range variables in scope, innermost first. -/
abbrev Env (D : Domain) := List (Binding D)

/-- The range variables a source binds, with their columns, in order. -/
abbrev Shape := List (Ident × List Ident)

/-- The rows of each table and its columns. -/
structure Database (D : Domain) where
  rows : Name → List (Row D)
  columns : Name → List Ident

/-! ## Three truth values -/

def and3 : Option Bool → Option Bool → Option Bool
  | some false, _ => some false
  | _, some false => some false
  | some true, some true => some true
  | _, _ => none

def or3 : Option Bool → Option Bool → Option Bool
  | some true, _ => some true
  | _, some true => some true
  | some false, some false => some false
  | _, _ => none

def not3 : Option Bool → Option Bool := Option.map (!·)

/-- Whether a condition holds: unknown does not. -/
def truth : Option Bool → Bool
  | some true => true
  | _ => false

@[simp] theorem truth_and3 (a b : Option Bool) : truth (and3 a b) = (truth a && truth b) := by
  rcases a with _ | _ | _ <;> rcases b with _ | _ | _ <;> rfl

/-- A comparison, unknown when a side is `NULL`. -/
def cmp3 (D : Domain) (op : BinOp) : Option D.V → Option D.V → Option Bool
  | some a, some b => some (D.cmp op a b)
  | _, _ => none

/-- `x IN (vs)`: true when some value equals `x`, false when every one differs. -/
def in3 (D : Domain) (x : Option D.V) (vs : List (Option D.V)) : Option Bool :=
  if vs.any fun v => cmp3 D .eq x v == some true then some true
  else if vs.all fun v => cmp3 D .eq x v == some false then some false
  else none

/-! ## Names -/

namespace Env

/-- The binding a qualifier names: the innermost range variable of that name. -/
def find? (env : Env D) (q : Ident) : Option (Binding D) :=
  List.find? (fun b : Binding D => decide (b.name = q)) env

/-- The value of `q.c`. -/
def qualified (env : Env D) (q c : Ident) : Option D.V := (env.find? q).bind fun b => b.row.bind (· c)

/-- The value of an unqualified column: that of the innermost range variable whose
table has the column. -/
def unqualified (env : Env D) (c : Ident) : Option D.V :=
  (List.find? (fun b : Binding D => b.columns.contains c) env).bind fun b => b.row.bind (· c)

end Env

/-- Bindings filled with nulls. -/
def nulls (sh : Shape) : Env D := sh.map fun (n, cs) => ⟨n, cs, none⟩

/-- The first item of a query's projection, the value an `IN` subquery gives. -/
def firstItem : Query → Expr
  | .mk _ _ (.select (.mk _ _ _ (.expr e :: _) ..)) .. => e
  | .mk _ _ (.select (.mk _ _ _ (.aliased e _ :: _) ..)) .. => e
  | _ => .wildcard

/-- The value of a scalar: a column, a literal, or one of these in parentheses. -/
def evalScalar : Expr → Env D → Option D.V
  | .compound [q, c], env => env.qualified q c
  | .ident c, env => env.unqualified c
  | .value v, _ => D.lit v
  | .nested e, env => evalScalar e env
  | _, _ => none

/-- The rows a left row `l` gives in a join on `cond`: `l` joined with each right row
it matches, or, when it matches none and the join keeps its left side, `l` with
nulls for the right side. -/
def matchRow (keepLeft : Bool) (cond : Env D → Option Bool) (rsh : Shape) (R : List (Env D))
    (l : Env D) : List (Env D) :=
  let matched := R.filter fun r => truth (cond (l ++ r))
  if keepLeft && matched.isEmpty then [l ++ nulls rsh] else matched.map (l ++ ·)

/-- Joins two bags of rows of the given shapes on `cond`; an outer join adds each
unmatched row of a side it keeps, with nulls for the other side. -/
def joinRows (kind : JoinKind) (cond : Env D → Option Bool) (lsh rsh : Shape)
    (L R : List (Env D)) : List (Env D) :=
  let rightUnmatched := (R.filter fun r => L.all fun l => !truth (cond (l ++ r))).map (nulls lsh ++ ·)
  match kind with
  | .plain | .inner | .cross | .straight => L.flatMap (matchRow false cond rsh R)
  | .left | .leftOuter => L.flatMap (matchRow true cond rsh R)
  | .right | .rightOuter => L.flatMap (matchRow false cond rsh R) ++ rightUnmatched
  | .fullOuter => L.flatMap (matchRow true cond rsh R) ++ rightUnmatched
  | _ => []

section Shapes

variable (db : Database D)

/-- The range variable of a table reference: its alias, or the last part of its name. -/
def rangeName (name : Name) (aliasName : Option TableAlias) : Ident :=
  (qualifier name aliasName).getD ⟨"", none⟩

mutual

def shapeTwj : TableWithJoins → Shape
  | .mk rel js => shapeFactor rel ++ shapeJoins js

def shapeJoins : List Join → Shape
  | [] => []
  | .mk rel _ :: js => shapeFactor rel ++ shapeJoins js

def shapeFactor : TableFactor → Shape
  | .table name _ _ aliasName .. => [(rangeName name aliasName, db.columns name)]
  | .nested t _ => shapeTwj t
  | _ => []

end

def shapeFrom : List TableWithJoins → Shape
  | [] => []
  | t :: ts => shapeTwj db t ++ shapeFrom ts

end Shapes

mutual

/-- The range variables a source binds, in order. -/
def namesTwj : TableWithJoins → List Ident
  | .mk rel js => namesFactor rel ++ namesJoins js

def namesJoins : List Join → List Ident
  | [] => []
  | .mk rel _ :: js => namesFactor rel ++ namesJoins js

def namesFactor : TableFactor → List Ident
  | .table name _ _ aliasName .. => [rangeName name aliasName]
  | .nested t _ => namesTwj t
  | _ => []

end

def namesFrom : List TableWithJoins → List Ident
  | [] => []
  | t :: ts => namesTwj t ++ namesFrom ts

/-! ## The fragment -/

/-- A scalar the evaluator reads: a qualified or unqualified column, a literal, or
one of these in parentheses. -/
def IsScalar : Expr → Prop
  | .compound [_, _] | .ident _ | .value _ => True
  | .nested e => IsScalar e
  | _ => False

/-- A condition that reads no table: comparisons of scalars, `AND`, `OR`, `NOT` and
truth values. -/
def PlainPred : Expr → Prop
  | .binary l op r =>
    match op with
    | .and | .or => PlainPred l ∧ PlainPred r
    | .gt | .lt | .ge | .le | .eq | .neq => IsScalar l ∧ IsScalar r
    | _ => False
  | .unary .not e => PlainPred e
  | .nested e => PlainPred e
  | .value (.boolean _) => True
  | _ => False

/-- A projection item that reads no table: a scalar or a wildcard. -/
def IsPlainItem : SelectItem → Prop
  | .expr e | .aliased e _ => IsScalar e
  | .wildcard .. => True

/-- The join kinds of the fragment. -/
def fragmentKinds : List JoinKind :=
  [.plain, .inner, .cross, .straight, .left, .leftOuter, .right, .rightOuter, .fullOuter]

mutual

/-- A query of the fragment: one `SELECT` block, with no common table expression and
no `LIMIT` or `FETCH`. -/
def FragQuery : Query → Prop
  | .mk _ cs body _ l ft _ _ => cs = [] ∧ l = .none ∧ ft = none ∧ FragSetExpr body

def FragSetExpr : SetExpr → Prop
  | .select s => FragSelect s
  | _ => False

/-- A block of the fragment: no grouping, `HAVING` or `QUALIFY`, a projection that
reads no table, and distinct range variables. -/
def FragSelect : Select → Prop
  | .mk _ _ _ items from_ w g h _ qu _ _ _ _ =>
    (∀ i ∈ items, IsPlainItem i) ∧ g = .keys [] [] ∧ h = none ∧ qu = none ∧
      (namesFrom from_).Nodup ∧ FragFrom from_ ∧ FragOptPred w

def FragFrom : List TableWithJoins → Prop
  | [] => True
  | t :: ts => FragTwj t ∧ FragFrom ts

def FragTwj : TableWithJoins → Prop
  | .mk rel js => FragFactor rel ∧ FragJoins js

def FragJoins : List Join → Prop
  | [] => True
  | .mk rel (.join kind c) :: js => kind ∈ fragmentKinds ∧ FragFactor rel ∧ FragConstraint c ∧ FragJoins js
  | .mk _ _ :: _ => False

/-- An `ON` clause of the fragment reads no table of its own: conditions in `ON`
are not scoped. -/
def FragConstraint : JoinConstraint → Prop
  | .on e => PlainPred e
  | .none => True
  | _ => False

/-- A table, not a table function, with no alias columns renaming its own; or a
join group with no alias. -/
def FragFactor : TableFactor → Prop
  | .table name _ args aliasName .. =>
    name.parts ≠ [] ∧ args = none ∧ ∀ a ∈ aliasName, a.columns = []
  | .nested t aliasName => aliasName = none ∧ FragTwj t
  | _ => False

def FragOptPred : Option Expr → Prop
  | none => True
  | some e => FragPred e

def FragPred : Expr → Prop
  | .binary l op r =>
    match op with
    | .and | .or => FragPred l ∧ FragPred r
    | .gt | .lt | .ge | .le | .eq | .neq => IsScalar l ∧ IsScalar r
    | _ => False
  | .unary .not e => FragPred e
  | .nested e => FragPred e
  | .exists _ q => FragQuery q
  | .inSubquery e _ q => IsScalar e ∧ FragQuery q
  | .value (.boolean _) => True
  | _ => False

end

/-! ## The evaluator -/

/-- Whether a row satisfies the filter's condition. -/
def admits (f : Filter) (r : Row D) : Bool :=
  truth (cmp3 D .eq (r f.condition.column) (D.lit f.condition.value.toValue))

/-- The rows a table reference reads: those of its table, or with a filter that
refers to it, those the filter admits. -/
def scan (db : Database D) (filt : Option Filter) (name : Name) (aliasName : Option TableAlias) :
    List (Row D) :=
  match filt with
  | some f => if f.target.refersTo name (aliasName.map (·.name)) then (db.rows name).filter (admits f)
    else db.rows name
  | none => db.rows name

section Eval

variable (db : Database D) (filt : Option Filter)

mutual

def evalQuery : Query → Env D → List (Env D)
  | .mk _ _ body .., env => evalSetExpr body env

def evalSetExpr : SetExpr → Env D → List (Env D)
  | .select s, env => evalSelect s env
  | _, _ => []

/-- The rows of a block: those of its `FROM` list on which its `WHERE` holds. -/
def evalSelect : Select → Env D → List (Env D)
  | .mk _ _ _ _ from_ w .., env => (evalFrom from_ env).filter fun b => truth (evalOptPred w (b ++ env))

/-- A `FROM` list is the product of its sources. -/
def evalFrom : List TableWithJoins → Env D → List (Env D)
  | [], _ => [[]]
  | t :: ts, env => (evalTwj t env).flatMap fun b => (evalFrom ts env).map (b ++ ·)

def evalTwj : TableWithJoins → Env D → List (Env D)
  | .mk rel js, env => evalJoins js (shapeFactor db rel) (evalFactor rel env) env

/-- The joins of a source, left to right, from the rows `acc` of shape `sh` joined so
far. -/
def evalJoins : List Join → Shape → List (Env D) → Env D → List (Env D)
  | [], _, acc, _ => acc
  | .mk rel (.join kind c) :: js, sh, acc, env =>
    evalJoins js (sh ++ shapeFactor db rel)
      (joinRows kind (fun b => evalConstraint c (b ++ env)) sh (shapeFactor db rel) acc
        (evalFactor rel env)) env
  | .mk _ _ :: _, _, _, _ => []

def evalConstraint : JoinConstraint → Env D → Option Bool
  | .on e, env => evalPred e env
  | .none, _ => some true
  | _, _ => none

def evalFactor : TableFactor → Env D → List (Env D)
  | .table name _ _ aliasName .., _ =>
    (scan db filt name aliasName).map fun r => [⟨rangeName name aliasName, db.columns name, some r⟩]
  | .nested t _, env => evalTwj t env
  | _, _ => []

def evalOptPred : Option Expr → Env D → Option Bool
  | none, _ => some true
  | some e, env => evalPred e env

def evalPred : Expr → Env D → Option Bool
  | .binary l op r, env =>
    match op with
    | .and => and3 (evalPred l env) (evalPred r env)
    | .or => or3 (evalPred l env) (evalPred r env)
    | .gt | .lt | .ge | .le | .eq | .neq => cmp3 D op (evalScalar l env) (evalScalar r env)
    | _ => none
  | .unary .not e, env => not3 (evalPred e env)
  | .nested e, env => evalPred e env
  | .exists negated q, env => some (negated != !(evalQuery q env).isEmpty)
  | .inSubquery e negated q, env =>
    (if negated then not3 else id)
      (in3 D (evalScalar e env) ((evalQuery q env).map fun b => evalScalar (firstItem q) (b ++ env)))
  | .value (.boolean b), _ => some b
  | _, _ => none

end

end Eval

end SqlScope.Scope.Rows
