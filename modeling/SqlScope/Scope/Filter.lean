import SqlScope.Scope.Condition
import SqlScope.Scope.Error

/-!
# Scoping reads to a table

A filter adds its condition wherever a statement reads the filter's table, so
that every row taken from that table satisfies it. Each reference of the table
gets the condition qualified by the name the query knows it by (its alias, or the
last part of its name), in the clause that filters the rows of that reference:

- a table in a `FROM` list, and in the extra lists of `UPDATE ... FROM` and
  `DELETE ... USING`, gets it in the enclosing `WHERE`;
- a table on the right of a join that has, or may have, an `ON` clause gets it
  in that `ON`;
- a table on the right of an inner join without `ON` (`CROSS`, `USING`,
  `NATURAL`) gets it in the enclosing `WHERE`;
- a parenthesised join group passes the conditions of its leading table to the
  clause that owns the group;
- derived tables, the branches of set operations and common table expressions are
  scoped as queries of their own, and so are the outermost queries nested in a
  `WHERE` condition.

An outer join written with `USING` or `NATURAL`, and an `APPLY`, has no clause the
condition could go to without changing the join, so a filtered table there is an
error. The projection is not searched.
-/

namespace SqlScope.Scope

open SqlScope.Sql SqlScope.Text

/-- Where the condition for the table on the right of a join goes. -/
inductive JoinSite where
  /-- Into the join's own `ON` clause. -/
  | on
  /-- Into the clause that filters the enclosing query. -/
  | enclosing
  /-- Nowhere: the join cannot be scoped. -/
  | unsupported
  deriving Repr, BEq, DecidableEq

/-- Whether a join keeps only the pairs of rows that match, so that a condition on
its right side may as well filter the whole query. -/
def isInnerJoin : JoinKind → Bool
  | .plain | .inner | .cross | .straight => true
  | _ => false

/-- Where a join takes the condition for its right side. -/
def joinSite : JoinOperator → JoinSite
  | .join kind c =>
    if isInnerJoin kind then
      match c with
      | .on _ => .on
      | _ => .enclosing
    else
      match c with
      | .on _ | .none => .on
      | _ => .unsupported
  | .asOf _ c =>
    match c with
    | .on _ | .none => .on
    | _ => .unsupported
  | .crossApply | .outerApply => .unsupported

/-- Adds a predicate to the `ON` clause of a join constraint, creating the clause
if the join has none. -/
def addOnPredicate (c : JoinConstraint) (p : Expr) : JoinConstraint :=
  match c with
  | .on e => .on (conjoin (some e) p)
  | _ => .on p

/-- Adds a predicate to the `ON` clause of a join. -/
def addJoinPredicate (op : JoinOperator) (p : Expr) : JoinOperator :=
  match op with
  | .join kind c => .join kind (addOnPredicate c p)
  | .asOf m c => .asOf m (addOnPredicate c p)
  | other => other

/-- A step of scoping a statement. It may fail, and it keeps the references the
condition has been bound to, in the order of binding, also when a later step
fails. -/
abbrev Scoping := ExceptT RewriteError (StateM (List Ident))

/-- A condition bound to the table it scopes. -/
structure Filter where
  target : TableTarget
  condition : Condition
  deriving Repr, Inhabited

namespace Filter

/-- The condition for the table reference known as `q`. -/
def predicate (f : Filter) (q : Ident) : Expr := (f.condition.withTable q).toExpr

/-- Binds the condition to the reference known as `q`: records the reference and
gives its predicate. -/
def bindTo (f : Filter) (q : Ident) : Scoping Expr := do
  modify (· ++ [q])
  return f.predicate q

/-- Binds the condition to the references `qs`, in order; gives their predicates. -/
def bindEach (f : Filter) (qs : List Ident) : Scoping (List Expr) := qs.mapM f.bindTo

/-- The slot after the predicates `ps` are added to it, in order. -/
def addPredicates (slot : Option Expr) (ps : List Expr) : Option Expr := ps.foldl addPredicate slot

/-- The operator after the conditions for the references `qs` are bound and added
to its `ON` clause, in order. -/
def bindAllOn (f : Filter) (op : JoinOperator) : List Ident → Scoping JoinOperator
  | [] => pure op
  | q :: qs => do
    let p ← f.bindTo q
    f.bindAllOn (addJoinPredicate op p) qs

/-- The error for a filtered table joined by `j`. -/
def unsupported (f : Filter) (j : Join) : RewriteError :=
  .unsupportedJoin f.target.raw (trim j.render)

mutual

/-- Scopes a query: its common table expressions, then its body. -/
def query (f : Filter) : Query → Scoping Query
  | .mk r cs body o l ft k fc => do
    let cs ← f.ctes cs
    let body ← f.setExpr body
    return .mk r cs body o l ft k fc

def ctes (f : Filter) : List Cte → Scoping (List Cte)
  | [] => pure []
  | .mk a m q :: rest => do
    let q ← f.query q
    let rest ← f.ctes rest
    return .mk a m q :: rest

/-- Scopes the body of a query; `VALUES` and `TABLE` bodies read no table it could
filter. -/
def setExpr (f : Filter) : SetExpr → Scoping SetExpr
  | .select s => do return .select (← f.select s)
  | .query q => do return .query (← f.query q)
  | .setOp op qu l r => do
    let l ← f.setExpr l
    let r ← f.setExpr r
    return .setOp op qu l r
  | other => pure other

/-- Scopes a `SELECT`: the conditions of its `FROM` list are bound, then the
subqueries of its `WHERE` are scoped and the conditions added to it. The added
conditions hold no query, so adding them before or after scoping gives the same
statement. -/
def select (f : Filter) : Select → Scoping Select
  | .mk d t tf p from_ w g h nw ql wf i fc ds => do
    let (from_, ps) ← f.fromList from_
    let w ← f.optExpr w
    return .mk d t tf p from_ (addPredicates w ps) g h nw ql wf i fc ds

/-- Scopes a list of sources, one after the other, binding the condition to the
references a source owes the enclosing `WHERE` as soon as the source is scoped;
gives the predicates for that `WHERE`, in order. -/
def fromList (f : Filter) : List TableWithJoins → Scoping (List TableWithJoins × List Expr)
  | [] => pure ([], [])
  | t :: rest => do
    let (t, qs) ← f.tableWithJoins t
    let ps ← f.bindEach qs
    let (rest, ps') ← f.fromList rest
    return (t :: rest, ps ++ ps')

def tableWithJoins (f : Filter) : TableWithJoins → Scoping (TableWithJoins × List Ident)
  | .mk rel js => do
    let (rel, qs) ← f.tableFactor rel
    let (js, qs') ← f.joins js
    return (.mk rel js, qs ++ qs')

def joins (f : Filter) : List Join → Scoping (List Join × List Ident)
  | [] => pure ([], [])
  | j :: rest => do
    let (j, qs) ← f.join j
    let (rest, qs') ← f.joins rest
    return (j :: rest, qs ++ qs')

/-- Scopes the right side of a join; returns the references whose conditions belong
to the enclosing clause. -/
def join (f : Filter) : Join → Scoping (Join × List Ident)
  | .mk rel op => do
    let (rel, qs) ← f.tableFactor rel
    if qs.isEmpty then return (.mk rel op, [])
    match joinSite op with
    | .enclosing => return (.mk rel op, qs)
    | .unsupported => throw (f.unsupported (.mk rel op))
    | .on => do
      let op ← f.bindAllOn op qs
      return (.mk rel op, [])

/-- Scopes one source: a reference to the table answers with its qualifier. -/
def tableFactor (f : Filter) : TableFactor → Scoping (TableFactor × List Ident)
  | .table name ps args aliasName ih hints v sample ord =>
    let t := TableFactor.table name ps args aliasName ih hints v sample ord
    if f.target.refersTo name (aliasName.map (·.name)) then pure (t, (qualifier name aliasName).toList)
    else pure (t, [])
  | .derived l q a => do return (.derived l (← f.query q) a, [])
  | .nested t a => do
    let (t, qs) ← f.tableWithJoins t
    return (.nested t a, qs)
  | other => pure (other, [])

/-- Scopes the outermost queries nested in an expression. -/
def expr (f : Filter) : Expr → Scoping Expr
  | .binary l op r => do
    let l ← f.expr l
    let r ← f.expr r
    return .binary l op r
  | .unary op e => do return .unary op (← f.expr e)
  | .nested e => do return .nested (← f.expr e)
  | .isTest e t => do return .isTest (← f.expr e) t
  | .isDistinctFrom l n r => do
    let l ← f.expr l
    let r ← f.expr r
    return .isDistinctFrom l n r
  | .inList e n items => do
    let e ← f.expr e
    let items ← f.exprs items
    return .inList e n items
  | .inSubquery e n q => do
    let e ← f.expr e
    let q ← f.query q
    return .inSubquery e n q
  | .between e n lo hi => do
    let e ← f.expr e
    let lo ← f.expr lo
    let hi ← f.expr hi
    return .between e n lo hi
  | .like e n k any p esc => do
    let e ← f.expr e
    let p ← f.expr p
    return .like e n k any p esc
  | .call name args wg filter nt window => do
    let args ← f.functionArgs args
    let filter ← f.optExpr filter
    let window ← f.optWindow window
    let wg ← f.orderBys wg
    return .call name args wg filter nt window
  | .cast s e t => do return .cast s (← f.expr e) t
  | .exists n q => do return .exists n (← f.query q)
  | .subquery q => do return .subquery (← f.query q)
  | .quantified l op qu r => do
    let l ← f.expr l
    let r ← f.expr r
    return .quantified l op qu r
  | .case operand whens otherwise => do
    let operand ← f.optExpr operand
    let whens ← f.whens whens
    let otherwise ← f.optExpr otherwise
    return .case operand whens otherwise
  | .array named elems => do return .array named (← f.exprs elems)
  | .tuple elems => do return .tuple (← f.exprs elems)
  | .interval e u => do return .interval (← f.expr e) u
  | .extract field comma e => do return .extract field comma (← f.expr e)
  | .collate e c => do return .collate (← f.expr e) c
  | .atTimeZone e z => do
    let e ← f.expr e
    let z ← f.expr z
    return .atTimeZone e z
  | .position e w => do
    let e ← f.expr e
    let w ← f.expr w
    return .position e w
  | .substring e s l comma short => do
    let e ← f.expr e
    let s ← f.optExpr s
    let l ← f.optExpr l
    return .substring e s l comma short
  | .trim w what e chars => do
    let e ← f.expr e
    let what ← f.optExpr what
    let chars ← f.exprs chars
    return .trim w what e chars
  | .ceilFloor c e s => do return .ceilFloor c (← f.expr e) s
  | .convert isTry e ty cs tf styles => do
    let e ← f.expr e
    let styles ← f.exprs styles
    return .convert isTry e ty cs tf styles
  | .overlay e what start len => do
    let e ← f.expr e
    let what ← f.expr what
    let start ← f.expr start
    let len ← f.optExpr len
    return .overlay e what start len
  | .memberOf v a => do
    let v ← f.expr v
    let a ← f.expr a
    return .memberOf v a
  | .fieldAccess root chain => do
    let root ← f.expr root
    let chain ← f.accesses chain
    return .fieldAccess root chain
  | other => pure other

def exprs (f : Filter) : List Expr → Scoping (List Expr)
  | [] => pure []
  | e :: rest => do
    let e ← f.expr e
    let rest ← f.exprs rest
    return e :: rest

def optExpr (f : Filter) : Option Expr → Scoping (Option Expr)
  | none => pure none
  | some e => do return some (← f.expr e)

def accesses (f : Filter) : List Access → Scoping (List Access)
  | [] => pure []
  | a :: rest => do
    let a ← match a with
      | .dot e => do pure (Access.dot (← f.expr e))
      | .index e => do pure (Access.index (← f.expr e))
      | .slice lo up st => do
        let lo ← f.optExpr lo
        let up ← f.optExpr up
        let st ← f.optExpr st
        pure (Access.slice lo up st)
    let rest ← f.accesses rest
    return a :: rest

def whens (f : Filter) : List WhenBranch → Scoping (List WhenBranch)
  | [] => pure []
  | .mk c r :: rest => do
    let c ← f.expr c
    let r ← f.expr r
    let rest ← f.whens rest
    return .mk c r :: rest

def functionArgs (f : Filter) : FunctionArgs → Scoping FunctionArgs
  | .none => pure .none
  | .subquery q => do return .subquery (← f.query q)
  | .list d args clauses => do
    let args ← f.functionArgList args
    let clauses ← f.argClauses clauses
    return .list d args clauses

def argClauses (f : Filter) : List ArgClause → Scoping (List ArgClause)
  | [] => pure []
  | c :: rest => do
    let c ← match c with
      | .orderBy keys => do pure (ArgClause.orderBy (← f.orderBys keys))
      | .limit e => do pure (ArgClause.limit (← f.expr e))
      | .having max e => do pure (ArgClause.having max (← f.expr e))
      | .onOverflowTruncate filler withCount => do
        pure (ArgClause.onOverflowTruncate (← f.optExpr filler) withCount)
      | c => pure c
    let rest ← f.argClauses rest
    return c :: rest

def functionArgList (f : Filter) : List FunctionArg → Scoping (List FunctionArg)
  | [] => pure []
  | a :: rest => do
    let a ← match a with
      | .unnamed e => do pure (FunctionArg.unnamed (← f.expr e))
      | .named n op e => do pure (FunctionArg.named n op (← f.expr e))
    let rest ← f.functionArgList rest
    return a :: rest

def optWindow (f : Filter) : Option WindowSpec → Scoping (Option WindowSpec)
  | none => pure none
  | some (.named n) => pure (some (.named n))
  | some (.spec n parts orderBy frame) => do
    let parts ← f.exprs parts
    let orderBy ← f.orderBys orderBy
    let frame ← f.optFrame frame
    return some (.spec n parts orderBy frame)

def optFrame (f : Filter) : Option WindowFrame → Scoping (Option WindowFrame)
  | none => pure none
  | some (.mk units start finish) => do
    let start ← f.frameBound start
    let finish ← f.optFrameBound finish
    return some (.mk units start finish)

def optFrameBound (f : Filter) : Option FrameBound → Scoping (Option FrameBound)
  | none => pure none
  | some b => do return some (← f.frameBound b)

def frameBound (f : Filter) : FrameBound → Scoping FrameBound
  | .currentRow => pure .currentRow
  | .preceding offset => do return .preceding (← f.optExpr offset)
  | .following offset => do return .following (← f.optExpr offset)

def orderBys (f : Filter) : List OrderByExpr → Scoping (List OrderByExpr)
  | [] => pure []
  | .mk e asc nulls :: rest => do
    let e ← f.expr e
    let rest ← f.orderBys rest
    return .mk e asc nulls :: rest

end

/-- Scopes an `UPDATE`: the condition is bound to the updated table and then to
the tables of its `FROM` list, the subqueries of its `WHERE` are scoped, and the
conditions are added to it. -/
def update (f : Filter) (u : Update) : Scoping Update := do
  let (table, qs) ← f.tableWithJoins u.table
  let ps ← f.bindEach qs
  let (from_, ps') ← match u.from_ with
    | some (.beforeSet ts) => do
      let (ts, ps') ← f.fromList ts
      pure (some (UpdateFrom.beforeSet ts), ps')
    | some (.afterSet ts) => do
      let (ts, ps') ← f.fromList ts
      pure (some (UpdateFrom.afterSet ts), ps')
    | none => pure (none, [])
  let w ← f.optExpr u.selection
  return { u with table, from_, selection := addPredicates w (ps ++ ps') }

/-- Scopes a `DELETE`: the condition is bound to the tables it deletes from and
then to those of its `USING` list, the subqueries of its `WHERE` are scoped, and
the conditions are added to it. -/
def delete (f : Filter) (d : Delete) : Scoping Delete := do
  let (from_, ps) ← f.fromList d.from_
  let (usingTables, ps') ← match d.usingTables with
    | some ts => do
      let (ts, ps') ← f.fromList ts
      pure (some ts, ps')
    | none => pure (none, [])
  let w ← f.optExpr d.selection
  return { d with from_, usingTables, selection := addPredicates w (ps ++ ps') }

/-- Scopes a statement that reads tables: a query, an update or a delete. Other
statements are returned as they are. -/
def statement (f : Filter) : Statement → Scoping Statement
  | .query q => do return .query (← f.query q)
  | .update u => do return .update (← f.update u)
  | .delete d => do return .delete (← f.delete d)
  | other => pure other

/-- Scopes a statement: the references the condition was bound to, in order, with
the scoped statement or the failure that stopped the scoping. -/
def scope (f : Filter) (s : Statement) : List Ident × Except RewriteError Statement :=
  let (r, bound) := Id.run ((f.statement s).run.run [])
  (bound, r)

end Filter

end SqlScope.Scope
