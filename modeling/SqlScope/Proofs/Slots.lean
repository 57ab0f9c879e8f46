import SqlScope.Proofs.Placement

/-!
# Predicate slots

The predicate slots of a statement are the `WHERE` of every block a filter reaches and
the constraint of every join in such a block. A `SlotMap` rewrites those slots and
nothing else: it gives a block's new `WHERE` from the block's sources and its old
condition, and a join's new constraint from the join and its old constraint. Every other
part of the statement (projections, table names, aliases, join operators, `USING` lists,
grouping, ordering, limits, set operators, common table expressions, assignments) is
rebuilt as it was, and the queries inside a `WHERE` are rewritten the same way.

Two maps matter here. `Placement.adding` appends conditions `q.column = value` to the
slots, in the order a filter adds them, and gives an `ON` clause to the joins that may
have one. `Filter.erasing` drops from each slot as many trailing conjuncts as the filter
adds there, and takes an `ON` clause it empties back to no constraint.

## Main statements

- `SlotMap.statement_id`: a map that keeps every slot keeps the statement.
- `SlotMap.statement_leftInverse`: a map that undoes another at every slot undoes it.
- `Filter.erasing_adding`: erasing a filter's conditions gives back the statement.
-/

namespace SqlScope.Sql

/-- The operator with `g` applied to its constraint; `APPLY` has none. -/
def JoinOperator.mapConstraint (g : JoinConstraint → JoinConstraint) : JoinOperator → JoinOperator
  | .join kind c => .join kind (g c)
  | .asOf m c => .asOf m (g c)
  | other => other

theorem JoinOperator.mapConstraint_mapConstraint (g g' : JoinConstraint → JoinConstraint)
    (op : JoinOperator) : (op.mapConstraint g).mapConstraint g' = op.mapConstraint (g' ∘ g) := by
  cases op <;> rfl

theorem JoinOperator.mapConstraint_id (op : JoinOperator) : op.mapConstraint id = op := by
  cases op <;> rfl

end SqlScope.Sql

namespace SqlScope.Scope

open SqlScope.Sql

/-- A rewrite of the predicate slots of a statement. -/
@[ext] structure SlotMap where
  /-- The new `WHERE` of a block, from its sources and its condition. -/
  atWhere : List TableWithJoins → Option Expr → Option Expr
  /-- The new constraint of a join, from the join as written and its constraint. -/
  atOn : Join → JoinConstraint → JoinConstraint

namespace SlotMap

mutual

def query (m : SlotMap) : Query → Query
  | .mk r cs body o l ft k fc => .mk r (m.ctes cs) (m.setExpr body) o l ft k fc

def ctes (m : SlotMap) : List Cte → List Cte
  | [] => []
  | .mk a mat q :: rest => .mk a mat (m.query q) :: m.ctes rest

def setExpr (m : SlotMap) : SetExpr → SetExpr
  | .select s => .select (m.select s)
  | .query q => .query (m.query q)
  | .setOp op qu l r => .setOp op qu (m.setExpr l) (m.setExpr r)
  | other => other

/-- A block with its sources rewritten and its `WHERE` given by `atWhere`. -/
def select (m : SlotMap) : Select → Select
  | .mk d t tf p from_ w g h nw ql wf i fc ds =>
    .mk d t tf p (m.fromList from_) (m.atWhere from_ (m.optExpr w)) g h nw ql wf i fc ds

def fromList (m : SlotMap) : List TableWithJoins → List TableWithJoins
  | [] => []
  | t :: rest => m.twj t :: m.fromList rest

def twj (m : SlotMap) : TableWithJoins → TableWithJoins
  | .mk rel js => .mk (m.factor rel) (m.joins js)

def joins (m : SlotMap) : List Join → List Join
  | [] => []
  | j :: rest => m.join j :: m.joins rest

/-- A join with its right side rewritten and its constraint given by `atOn`. -/
def join (m : SlotMap) : Join → Join
  | .mk rel op => .mk (m.factor rel) (op.mapConstraint (m.atOn (.mk rel op)))

def factor (m : SlotMap) : TableFactor → TableFactor
  | .derived l q a => .derived l (m.query q) a
  | .nested t a => .nested (m.twj t) a
  | other => other

def expr (m : SlotMap) : Expr → Expr
  | .binary l op r => .binary (m.expr l) op (m.expr r)
  | .unary op e => .unary op (m.expr e)
  | .nested e => .nested (m.expr e)
  | .isTest e t => .isTest (m.expr e) t
  | .isDistinctFrom l n r => .isDistinctFrom (m.expr l) n (m.expr r)
  | .inList e n items => .inList (m.expr e) n (m.exprs items)
  | .inSubquery e n q => .inSubquery (m.expr e) n (m.query q)
  | .between e n lo hi => .between (m.expr e) n (m.expr lo) (m.expr hi)
  | .like e n k any p esc => .like (m.expr e) n k any (m.expr p) esc
  | .call name args wg filter nt window =>
    .call name (m.functionArgs args) (m.orderBys wg) (m.optExpr filter) nt (m.optWindow window)
  | .cast s e t => .cast s (m.expr e) t
  | .exists n q => .exists n (m.query q)
  | .subquery q => .subquery (m.query q)
  | .quantified l op qu r => .quantified (m.expr l) op qu (m.expr r)
  | .case operand whens otherwise =>
    .case (m.optExpr operand) (m.whens whens) (m.optExpr otherwise)
  | .array named elems => .array named (m.exprs elems)
  | .tuple elems => .tuple (m.exprs elems)
  | .interval e u => .interval (m.expr e) u
  | .extract field comma e => .extract field comma (m.expr e)
  | .collate e c => .collate (m.expr e) c
  | .atTimeZone e z => .atTimeZone (m.expr e) (m.expr z)
  | .position e w => .position (m.expr e) (m.expr w)
  | .substring e s l comma short => .substring (m.expr e) (m.optExpr s) (m.optExpr l) comma short
  | .trim w what e chars => .trim w (m.optExpr what) (m.expr e) (m.exprs chars)
  | .ceilFloor c e s => .ceilFloor c (m.expr e) s
  | .convert isTry e ty cs tf styles => .convert isTry (m.expr e) ty cs tf (m.exprs styles)
  | .overlay e what start len =>
    .overlay (m.expr e) (m.expr what) (m.expr start) (m.optExpr len)
  | .memberOf v a => .memberOf (m.expr v) (m.expr a)
  | .fieldAccess root chain => .fieldAccess (m.expr root) (m.accesses chain)
  | other => other

def exprs (m : SlotMap) : List Expr → List Expr
  | [] => []
  | e :: rest => m.expr e :: m.exprs rest

def optExpr (m : SlotMap) : Option Expr → Option Expr
  | none => none
  | some e => some (m.expr e)

def accesses (m : SlotMap) : List Access → List Access
  | [] => []
  | .dot e :: rest => .dot (m.expr e) :: m.accesses rest
  | .index e :: rest => .index (m.expr e) :: m.accesses rest
  | .slice lo up st :: rest =>
    .slice (m.optExpr lo) (m.optExpr up) (m.optExpr st) :: m.accesses rest

def whens (m : SlotMap) : List WhenBranch → List WhenBranch
  | [] => []
  | .mk c r :: rest => .mk (m.expr c) (m.expr r) :: m.whens rest

def functionArgs (m : SlotMap) : FunctionArgs → FunctionArgs
  | .none => .none
  | .subquery q => .subquery (m.query q)
  | .list d args clauses => .list d (m.functionArgList args) (m.argClauses clauses)

def argClauses (m : SlotMap) : List ArgClause → List ArgClause
  | [] => []
  | .orderBy keys :: rest => .orderBy (m.orderBys keys) :: m.argClauses rest
  | .limit e :: rest => .limit (m.expr e) :: m.argClauses rest
  | .having max e :: rest => .having max (m.expr e) :: m.argClauses rest
  | .onOverflowTruncate filler withCount :: rest =>
    .onOverflowTruncate (m.optExpr filler) withCount :: m.argClauses rest
  | c :: rest => c :: m.argClauses rest

def functionArgList (m : SlotMap) : List FunctionArg → List FunctionArg
  | [] => []
  | .unnamed e :: rest => .unnamed (m.expr e) :: m.functionArgList rest
  | .named n op e :: rest => .named n op (m.expr e) :: m.functionArgList rest

def optWindow (m : SlotMap) : Option WindowSpec → Option WindowSpec
  | some (.spec n parts orderBy frame) =>
    some (.spec n (m.exprs parts) (m.orderBys orderBy) (m.optFrame frame))
  | other => other

def optFrame (m : SlotMap) : Option WindowFrame → Option WindowFrame
  | none => none
  | some (.mk units start finish) => some (.mk units (m.frameBound start) (m.optFrameBound finish))

def optFrameBound (m : SlotMap) : Option FrameBound → Option FrameBound
  | none => none
  | some b => some (m.frameBound b)

def frameBound (m : SlotMap) : FrameBound → FrameBound
  | .currentRow => .currentRow
  | .preceding offset => .preceding (m.optExpr offset)
  | .following offset => .following (m.optExpr offset)

def orderBys (m : SlotMap) : List OrderByExpr → List OrderByExpr
  | [] => []
  | .mk e asc nulls :: rest => .mk (m.expr e) asc nulls :: m.orderBys rest

end

def updateFrom (m : SlotMap) : Option UpdateFrom → Option UpdateFrom
  | some (.beforeSet ts) => some (.beforeSet (m.fromList ts))
  | some (.afterSet ts) => some (.afterSet (m.fromList ts))
  | none => none

/-- An `UPDATE` whose `WHERE` is given from the updated table and its `FROM` list. -/
def update (m : SlotMap) (u : Update) : Update :=
  { u with
    table := m.twj u.table
    from_ := m.updateFrom u.from_
    selection := m.atWhere (u.table :: Filter.updateFromTables u.from_) (m.optExpr u.selection) }

/-- A `DELETE` whose `WHERE` is given from its `FROM` and `USING` lists. -/
def delete (m : SlotMap) (d : Delete) : Delete :=
  { d with
    from_ := m.fromList d.from_
    usingTables := d.usingTables.map m.fromList
    selection := m.atWhere (d.from_ ++ d.usingTables.getD []) (m.optExpr d.selection) }

def statement (m : SlotMap) : Statement → Statement
  | .query q => .query (m.query q)
  | .update u => .update (m.update u)
  | .delete d => .delete (m.delete d)
  | other => other

theorem fromList_append (m : SlotMap) (ts ts' : List TableWithJoins) :
    m.fromList (ts ++ ts') = m.fromList ts ++ m.fromList ts' := by
  induction ts with
  | nil => rfl
  | cons t ts ih => rw [List.cons_append, fromList, fromList, ih, List.cons_append]

theorem updateFromTables_updateFrom (m : SlotMap) (uf : Option UpdateFrom) :
    Filter.updateFromTables (m.updateFrom uf) = m.fromList (Filter.updateFromTables uf) := by
  rcases uf with _ | ⟨ts⟩ | ⟨ts⟩ <;> rfl

/-! ## The map that keeps every slot -/

/-- The map that keeps every slot as it is. -/
protected def id : SlotMap := ⟨fun _ w => w, fun _ c => c⟩

mutual

theorem query_id : (q : Query) → SlotMap.id.query q = q
  | .mk _ cs body .. => by rw [query, ctes_id cs, setExpr_id body]

theorem ctes_id : (cs : List Cte) → SlotMap.id.ctes cs = cs
  | [] => rfl
  | .mk _ _ q :: rest => by rw [ctes, query_id q, ctes_id rest]

theorem setExpr_id : (e : SetExpr) → SlotMap.id.setExpr e = e
  | .select s => by rw [setExpr, select_id s]
  | .query q => by rw [setExpr, query_id q]
  | .setOp _ _ l r => by rw [setExpr, setExpr_id l, setExpr_id r]
  | .values .. | .table _ | .dml _ => rfl

theorem select_id : (s : Select) → SlotMap.id.select s = s
  | .mk _ _ _ _ from_ w .. => by rw [select, fromList_id from_, optExpr_id w]; rfl

theorem fromList_id : (ts : List TableWithJoins) → SlotMap.id.fromList ts = ts
  | [] => rfl
  | t :: rest => by rw [fromList, twj_id t, fromList_id rest]

theorem twj_id : (t : TableWithJoins) → SlotMap.id.twj t = t
  | .mk rel js => by rw [twj, factor_id rel, joins_id js]

theorem joins_id : (js : List Join) → SlotMap.id.joins js = js
  | [] => rfl
  | j :: rest => by rw [joins, join_id j, joins_id rest]

theorem join_id : (j : Join) → SlotMap.id.join j = j
  | .mk rel op => by
    rw [join, factor_id rel]
    exact congrArg _ (JoinOperator.mapConstraint_id op)

theorem factor_id : (t : TableFactor) → SlotMap.id.factor t = t
  | .derived _ q _ => by rw [factor, query_id q]
  | .nested t _ => by rw [factor, twj_id t]
  | .table .. | .unnest .. | .function .. | .tableFunction .. | .columnsFunction ..
  | .pivot .. | .unpivot .. => rfl

theorem expr_id : (e : Expr) → SlotMap.id.expr e = e
  | .unary _ e | .nested e | .isTest e _ | .cast _ e _ | .interval e _ | .extract _ _ e
  | .collate e _ | .ceilFloor _ e _ => by rw [expr, expr_id e]
  | .binary l _ r | .isDistinctFrom l _ r | .quantified l _ _ r | .atTimeZone l r | .position l r
  | .memberOf l r | .like l _ _ _ r _ => by rw [expr, expr_id l, expr_id r]
  | .inList e _ items | .convert _ e _ _ _ items => by rw [expr, expr_id e, exprs_id items]
  | .inSubquery e _ q => by rw [expr, expr_id e, query_id q]
  | .between e _ lo hi => by rw [expr, expr_id e, expr_id lo, expr_id hi]
  | .call _ args wg filter _ window => by
    rw [expr, functionArgs_id args, orderBys_id wg, optExpr_id filter, optWindow_id window]
  | .exists _ q | .subquery q => by rw [expr, query_id q]
  | .case operand whens otherwise => by
    rw [expr, optExpr_id operand, whens_id whens, optExpr_id otherwise]
  | .array _ elems | .tuple elems => by rw [expr, exprs_id elems]
  | .substring e s l _ _ => by rw [expr, expr_id e, optExpr_id s, optExpr_id l]
  | .trim _ what e chars => by rw [expr, expr_id e, optExpr_id what, exprs_id chars]
  | .overlay e what start len => by
    rw [expr, expr_id e, expr_id what, expr_id start, optExpr_id len]
  | .fieldAccess root chain => by rw [expr, expr_id root, accesses_id chain]
  | .ident _ | .compound _ | .wildcard | .qualifiedWildcard _ | .value _ | .typedString ..
  | .introduced .. | .matchAgainst .. | .groupingSets _ | .cube _ | .rollup _ => rfl

theorem exprs_id : (es : List Expr) → SlotMap.id.exprs es = es
  | [] => rfl
  | e :: rest => by rw [exprs, expr_id e, exprs_id rest]

theorem optExpr_id : (e : Option Expr) → SlotMap.id.optExpr e = e
  | none => rfl
  | some e => by rw [optExpr, expr_id e]

theorem accesses_id : (as : List Access) → SlotMap.id.accesses as = as
  | [] => rfl
  | .dot e :: rest => by rw [accesses, expr_id e, accesses_id rest]
  | .index e :: rest => by rw [accesses, expr_id e, accesses_id rest]
  | .slice lo up st :: rest => by
    rw [accesses, optExpr_id lo, optExpr_id up, optExpr_id st, accesses_id rest]

theorem whens_id : (ws : List WhenBranch) → SlotMap.id.whens ws = ws
  | [] => rfl
  | .mk c r :: rest => by rw [whens, expr_id c, expr_id r, whens_id rest]

theorem functionArgs_id : (a : FunctionArgs) → SlotMap.id.functionArgs a = a
  | .none => rfl
  | .subquery q => by rw [functionArgs, query_id q]
  | .list _ args clauses => by rw [functionArgs, functionArgList_id args, argClauses_id clauses]

theorem argClauses_id : (cs : List ArgClause) → SlotMap.id.argClauses cs = cs
  | [] => rfl
  | .orderBy keys :: rest => by rw [argClauses, orderBys_id keys, argClauses_id rest]
  | .limit e :: rest => by rw [argClauses, expr_id e, argClauses_id rest]
  | .having _ e :: rest => by rw [argClauses, expr_id e, argClauses_id rest]
  | .onOverflowTruncate filler _ :: rest => by rw [argClauses, optExpr_id filler, argClauses_id rest]
  | .nullTreatment _ :: rest | .separator _ :: rest | .onOverflowError :: rest | .jsonNull _ :: rest
  | .returning _ :: rest => by simp only [argClauses, argClauses_id rest]

theorem functionArgList_id : (as : List FunctionArg) → SlotMap.id.functionArgList as = as
  | [] => rfl
  | .unnamed e :: rest => by rw [functionArgList, expr_id e, functionArgList_id rest]
  | .named _ _ e :: rest => by rw [functionArgList, expr_id e, functionArgList_id rest]

theorem optWindow_id : (w : Option WindowSpec) → SlotMap.id.optWindow w = w
  | none | some (.named _) => rfl
  | some (.spec _ parts orderBy frame) => by
    rw [optWindow, exprs_id parts, orderBys_id orderBy, optFrame_id frame]

theorem optFrame_id : (w : Option WindowFrame) → SlotMap.id.optFrame w = w
  | none => rfl
  | some (.mk _ start finish) => by rw [optFrame, frameBound_id start, optFrameBound_id finish]

theorem optFrameBound_id : (b : Option FrameBound) → SlotMap.id.optFrameBound b = b
  | none => rfl
  | some b => by rw [optFrameBound, frameBound_id b]

theorem frameBound_id : (b : FrameBound) → SlotMap.id.frameBound b = b
  | .currentRow => rfl
  | .preceding offset => by rw [frameBound, optExpr_id offset]
  | .following offset => by rw [frameBound, optExpr_id offset]

theorem orderBys_id : (os : List OrderByExpr) → SlotMap.id.orderBys os = os
  | [] => rfl
  | .mk e _ _ :: rest => by rw [orderBys, expr_id e, orderBys_id rest]

end

/-- A map that keeps every slot keeps the statement. -/
theorem statement_id (s : Statement) : SlotMap.id.statement s = s := by
  cases s with
  | query q => rw [statement, query_id q]
  | update u =>
    obtain ⟨_, table, _, from_, selection, _, _⟩ := u
    rcases from_ with _ | ⟨ts⟩ | ⟨ts⟩ <;>
      simp only [statement, update, updateFrom, twj_id, fromList_id, optExpr_id] <;> rfl
  | delete d =>
    obtain ⟨_, _, from_, usingTables, selection, _, _, _⟩ := d
    cases usingTables <;> simp only [statement, delete, fromList_id, optExpr_id, Option.map] <;> rfl
  | insert _ | other _ => rfl

theorem optExpr_addPredicates (m : SlotMap) (w : Option Expr) (cs : List Condition) :
    m.optExpr (Filter.addPredicates w (cs.map Condition.toExpr)) =
      Filter.addPredicates (m.optExpr w) (cs.map Condition.toExpr) := by
  induction cs generalizing w with
  | nil => rfl
  | cons c cs ih =>
    simp only [List.map_cons, Filter.addPredicates, List.foldl_cons] at ih ⊢
    rw [ih]
    -- a condition holds no query, so the map passes over it
    cases w <;> rfl

/-! ## Undoing a map -/

section LeftInverse

set_option linter.unusedSectionVars false

variable {g h : SlotMap}
  (hw : ∀ ts w, h.atWhere (g.fromList ts) (h.optExpr (g.atWhere ts w)) = h.optExpr w)
  (hj : ∀ (rel : TableFactor) (op : JoinOperator),
    (op.mapConstraint (g.atOn (.mk rel op))).mapConstraint
      (h.atOn (.mk (g.factor rel) (op.mapConstraint (g.atOn (.mk rel op))))) = op)
include hw hj

mutual

theorem query_leftInverse : (q : Query) → h.query (g.query q) = q
  | .mk _ cs body .. => by rw [query, query, ctes_leftInverse cs, setExpr_leftInverse body]

theorem ctes_leftInverse : (cs : List Cte) → h.ctes (g.ctes cs) = cs
  | [] => rfl
  | .mk _ _ q :: rest => by rw [ctes, ctes, query_leftInverse q, ctes_leftInverse rest]

theorem setExpr_leftInverse : (e : SetExpr) → h.setExpr (g.setExpr e) = e
  | .select s => by rw [setExpr, setExpr, select_leftInverse s]
  | .query q => by rw [setExpr, setExpr, query_leftInverse q]
  | .setOp _ _ l r => by rw [setExpr, setExpr, setExpr_leftInverse l, setExpr_leftInverse r]
  | .values .. | .table _ | .dml _ => rfl

theorem select_leftInverse : (s : Select) → h.select (g.select s) = s
  | .mk _ _ _ _ from_ w .. => by
    rw [select, select, hw, optExpr_leftInverse w, fromList_leftInverse from_]

theorem fromList_leftInverse : (ts : List TableWithJoins) → h.fromList (g.fromList ts) = ts
  | [] => rfl
  | t :: rest => by rw [fromList, fromList, twj_leftInverse t, fromList_leftInverse rest]

theorem twj_leftInverse : (t : TableWithJoins) → h.twj (g.twj t) = t
  | .mk rel js => by rw [twj, twj, factor_leftInverse rel, joins_leftInverse js]

theorem joins_leftInverse : (js : List Join) → h.joins (g.joins js) = js
  | [] => rfl
  | j :: rest => by rw [joins, joins, join_leftInverse j, joins_leftInverse rest]

theorem join_leftInverse : (j : Join) → h.join (g.join j) = j
  | .mk rel op => by rw [join, join, hj, factor_leftInverse rel]

theorem factor_leftInverse : (t : TableFactor) → h.factor (g.factor t) = t
  | .derived _ q _ => by rw [factor, factor, query_leftInverse q]
  | .nested t _ => by rw [factor, factor, twj_leftInverse t]
  | .table .. | .unnest .. | .function .. | .tableFunction .. | .columnsFunction ..
  | .pivot .. | .unpivot .. => rfl

theorem expr_leftInverse : (e : Expr) → h.expr (g.expr e) = e
  | .unary _ e | .nested e | .isTest e _ | .cast _ e _ | .interval e _ | .extract _ _ e
  | .collate e _ | .ceilFloor _ e _ => by rw [expr, expr, expr_leftInverse e]
  | .binary l _ r | .isDistinctFrom l _ r | .quantified l _ _ r | .atTimeZone l r | .position l r
  | .memberOf l r | .like l _ _ _ r _ => by rw [expr, expr, expr_leftInverse l, expr_leftInverse r]
  | .inList e _ items | .convert _ e _ _ _ items => by
    rw [expr, expr, expr_leftInverse e, exprs_leftInverse items]
  | .inSubquery e _ q => by rw [expr, expr, expr_leftInverse e, query_leftInverse q]
  | .between e _ lo hi => by
    rw [expr, expr, expr_leftInverse e, expr_leftInverse lo, expr_leftInverse hi]
  | .call _ args wg filter _ window => by
    rw [expr, expr, functionArgs_leftInverse args, orderBys_leftInverse wg,
      optExpr_leftInverse filter, optWindow_leftInverse window]
  | .exists _ q | .subquery q => by rw [expr, expr, query_leftInverse q]
  | .case operand whens otherwise => by
    rw [expr, expr, optExpr_leftInverse operand, whens_leftInverse whens,
      optExpr_leftInverse otherwise]
  | .array _ elems | .tuple elems => by rw [expr, expr, exprs_leftInverse elems]
  | .substring e s l _ _ => by
    rw [expr, expr, expr_leftInverse e, optExpr_leftInverse s, optExpr_leftInverse l]
  | .trim _ what e chars => by
    rw [expr, expr, expr_leftInverse e, optExpr_leftInverse what, exprs_leftInverse chars]
  | .overlay e what start len => by
    rw [expr, expr, expr_leftInverse e, expr_leftInverse what, expr_leftInverse start,
      optExpr_leftInverse len]
  | .fieldAccess root chain => by
    rw [expr, expr, expr_leftInverse root, accesses_leftInverse chain]
  | .ident _ | .compound _ | .wildcard | .qualifiedWildcard _ | .value _ | .typedString ..
  | .introduced .. | .matchAgainst .. | .groupingSets _ | .cube _ | .rollup _ => rfl

theorem exprs_leftInverse : (es : List Expr) → h.exprs (g.exprs es) = es
  | [] => rfl
  | e :: rest => by rw [exprs, exprs, expr_leftInverse e, exprs_leftInverse rest]

theorem optExpr_leftInverse : (e : Option Expr) → h.optExpr (g.optExpr e) = e
  | none => rfl
  | some e => by rw [optExpr, optExpr, expr_leftInverse e]

theorem accesses_leftInverse : (as : List Access) → h.accesses (g.accesses as) = as
  | [] => rfl
  | .dot e :: rest => by rw [accesses, accesses, expr_leftInverse e, accesses_leftInverse rest]
  | .index e :: rest => by rw [accesses, accesses, expr_leftInverse e, accesses_leftInverse rest]
  | .slice lo up st :: rest => by
    rw [accesses, accesses, optExpr_leftInverse lo, optExpr_leftInverse up, optExpr_leftInverse st,
      accesses_leftInverse rest]

theorem whens_leftInverse : (ws : List WhenBranch) → h.whens (g.whens ws) = ws
  | [] => rfl
  | .mk c r :: rest => by
    rw [whens, whens, expr_leftInverse c, expr_leftInverse r, whens_leftInverse rest]

theorem functionArgs_leftInverse : (a : FunctionArgs) → h.functionArgs (g.functionArgs a) = a
  | .none => rfl
  | .subquery q => by rw [functionArgs, functionArgs, query_leftInverse q]
  | .list _ args clauses => by
    rw [functionArgs, functionArgs, functionArgList_leftInverse args, argClauses_leftInverse clauses]

theorem argClauses_leftInverse : (cs : List ArgClause) → h.argClauses (g.argClauses cs) = cs
  | [] => rfl
  | .orderBy keys :: rest => by
    rw [argClauses, argClauses, orderBys_leftInverse keys, argClauses_leftInverse rest]
  | .limit e :: rest => by rw [argClauses, argClauses, expr_leftInverse e, argClauses_leftInverse rest]
  | .having _ e :: rest => by
    rw [argClauses, argClauses, expr_leftInverse e, argClauses_leftInverse rest]
  | .onOverflowTruncate filler _ :: rest => by
    rw [argClauses, argClauses, optExpr_leftInverse filler, argClauses_leftInverse rest]
  | .nullTreatment _ :: rest | .separator _ :: rest | .onOverflowError :: rest | .jsonNull _ :: rest
  | .returning _ :: rest => by simp only [argClauses, argClauses_leftInverse rest]

theorem functionArgList_leftInverse : (as : List FunctionArg) →
    h.functionArgList (g.functionArgList as) = as
  | [] => rfl
  | .unnamed e :: rest => by
    rw [functionArgList, functionArgList, expr_leftInverse e, functionArgList_leftInverse rest]
  | .named _ _ e :: rest => by
    rw [functionArgList, functionArgList, expr_leftInverse e, functionArgList_leftInverse rest]

theorem optWindow_leftInverse : (w : Option WindowSpec) → h.optWindow (g.optWindow w) = w
  | none | some (.named _) => rfl
  | some (.spec _ parts orderBy frame) => by
    rw [optWindow, optWindow, exprs_leftInverse parts, orderBys_leftInverse orderBy,
      optFrame_leftInverse frame]

theorem optFrame_leftInverse : (w : Option WindowFrame) → h.optFrame (g.optFrame w) = w
  | none => rfl
  | some (.mk _ start finish) => by
    rw [optFrame, optFrame, frameBound_leftInverse start, optFrameBound_leftInverse finish]

theorem optFrameBound_leftInverse : (b : Option FrameBound) →
    h.optFrameBound (g.optFrameBound b) = b
  | none => rfl
  | some b => by rw [optFrameBound, optFrameBound, frameBound_leftInverse b]

theorem frameBound_leftInverse : (b : FrameBound) → h.frameBound (g.frameBound b) = b
  | .currentRow => rfl
  | .preceding offset => by rw [frameBound, frameBound, optExpr_leftInverse offset]
  | .following offset => by rw [frameBound, frameBound, optExpr_leftInverse offset]

theorem orderBys_leftInverse : (os : List OrderByExpr) → h.orderBys (g.orderBys os) = os
  | [] => rfl
  | .mk e _ _ :: rest => by rw [orderBys, orderBys, expr_leftInverse e, orderBys_leftInverse rest]

end

theorem updateFrom_leftInverse (uf : Option UpdateFrom) : h.updateFrom (g.updateFrom uf) = uf := by
  rcases uf with _ | ⟨ts⟩ | ⟨ts⟩ <;>
    simp only [updateFrom, fromList_leftInverse hw hj]

/-- A map that undoes another at every slot undoes it on the whole statement. -/
theorem statement_leftInverse (s : Statement) : h.statement (g.statement s) = s := by
  cases s with
  | query q => rw [statement, statement, query_leftInverse hw hj q]
  | update u =>
    -- the updated table comes first among the sources of the `WHERE`
    have hsrc : g.twj u.table :: Filter.updateFromTables (g.updateFrom u.from_) =
        g.fromList (u.table :: Filter.updateFromTables u.from_) := by
      rw [updateFromTables_updateFrom, fromList]
    simp only [statement, update, hsrc, hw, optExpr_leftInverse hw hj, twj_leftInverse hw hj,
      updateFrom_leftInverse hw hj]
  | delete d =>
    have hsrc : g.fromList d.from_ ++ (d.usingTables.map g.fromList).getD [] =
        g.fromList (d.from_ ++ d.usingTables.getD []) := by
      rw [fromList_append]
      cases d.usingTables <;> rfl
    have husing : (d.usingTables.map g.fromList).map h.fromList = d.usingTables := by
      cases d.usingTables <;> simp only [Option.map, fromList_leftInverse hw hj]
    simp only [statement, delete, hsrc, hw, optExpr_leftInverse hw hj, fromList_leftInverse hw hj,
      husing]
  | insert _ | other _ => rfl

end LeftInverse

/-! ## What the sources hand on -/

section Exposed

set_option linter.unusedSectionVars false

variable {m : SlotMap}
  (hm : ∀ (rel : TableFactor) (op : JoinOperator),
    joinSite (op.mapConstraint (m.atOn (.mk rel op))) = joinSite op)
include hm

mutual

theorem exposedTwj_map (f : Filter) : (t : TableWithJoins) → f.exposedTwj (m.twj t) = f.exposedTwj t
  | .mk rel js => by
    rw [twj, Filter.exposedTwj, Filter.exposedTwj, exposedFactor_map f rel, exposedJoins_map f js]

theorem exposedJoins_map (f : Filter) : (js : List Join) →
    f.exposedJoins (m.joins js) = f.exposedJoins js
  | [] => rfl
  | .mk rel op :: rest => by
    rw [joins, join, Filter.exposedJoins, Filter.exposedJoins, hm, exposedFactor_map f rel,
      exposedJoins_map f rest]

theorem exposedFactor_map (f : Filter) : (rel : TableFactor) →
    f.exposedFactor (m.factor rel) = f.exposedFactor rel
  | .nested t _ => by rw [factor, Filter.exposedFactor, Filter.exposedFactor, exposedTwj_map f t]
  | .derived .. | .table .. | .unnest .. | .function .. | .tableFunction .. | .columnsFunction ..
  | .pivot .. | .unpivot .. => rfl

end

/-- A map that keeps where each join takes conditions keeps what every source hands on. -/
theorem exposedFrom_map (f : Filter) (ts : List TableWithJoins) :
    f.exposedFrom (m.fromList ts) = f.exposedFrom ts := by
  induction ts with
  | nil => rfl
  | cons t ts ih => rw [fromList, Filter.exposedFrom, Filter.exposedFrom, exposedTwj_map hm f t, ih]

end Exposed

end SlotMap

/-! ## Adding conditions -/

/-- The `ON` clause holding a condition, or no constraint. -/
def onClause : Option Expr → JoinConstraint
  | some e => .on e
  | none => .none

/-- A join constraint with a predicate added for each of `ps`, in order: an `ON` clause gets
them as further conjuncts, and any other constraint gives way to an `ON` clause. -/
def addOnPredicates (c : JoinConstraint) (ps : List Expr) : JoinConstraint := ps.foldl addOnPredicate c

theorem addPredicates_some (e : Expr) (ps : List Expr) :
    ∃ e', Filter.addPredicates (some e) ps = some e' := by
  induction ps generalizing e with
  | nil => exact ⟨e, rfl⟩
  | cons p ps ih => exact ih _

theorem addOnPredicates_onClause (v : Option Expr) (ps : List Expr) :
    addOnPredicates (onClause v) ps = onClause (Filter.addPredicates v ps) := by
  induction ps generalizing v with
  | nil => rfl
  | cons p ps ih =>
    have hstep : addOnPredicate (onClause v) p = onClause (addPredicate v p) := by
      cases v <;> rfl
    simp only [addOnPredicates, Filter.addPredicates, List.foldl_cons] at ih ⊢
    rw [hstep, ih]

theorem addOnPredicates_on (e : Expr) (ps : List Expr) : ∃ e', addOnPredicates (.on e) ps = .on e' := by
  obtain ⟨e', he'⟩ := addPredicates_some e ps
  exact ⟨e', by rw [show JoinConstraint.on e = onClause (some e) from rfl, addOnPredicates_onClause, he']; rfl⟩

theorem addOnPredicates_none (ps : List Expr) :
    addOnPredicates .none ps = .none ∨ ∃ e', addOnPredicates .none ps = .on e' := by
  rw [show JoinConstraint.none = onClause none from rfl, addOnPredicates_onClause]
  cases Filter.addPredicates none ps with
  | none => exact .inl rfl
  | some e' => exact .inr ⟨e', rfl⟩

/-- A join takes conditions in its `ON` when it has an `ON` clause, or when it keeps
unmatched rows and has no constraint at all. -/
theorem joinSite_join_eq_on (kind : JoinKind) (c : JoinConstraint) :
    joinSite (.join kind c) = .on ↔ (∃ e, c = .on e) ∨ (isInnerJoin kind = false ∧ c = .none) := by
  cases hk : isInnerJoin kind <;> cases c <;> simp [joinSite, hk]

theorem joinSite_asOf_eq_on (mc : Expr) (c : JoinConstraint) :
    joinSite (.asOf mc c) = .on ↔ (∃ e, c = .on e) ∨ c = .none := by
  cases c <;> simp [joinSite]

/-- A join that takes conditions in its `ON` keeps its constraint under a map that keeps
`ON` clauses and missing constraints. -/
theorem mapConstraint_eq_self_of_joinSite {op : JoinOperator} (hs : joinSite op = .on)
    {g : JoinConstraint → JoinConstraint} (hg : ∀ v, g (onClause v) = onClause v) :
    op.mapConstraint g = op := by
  rcases op with ⟨kind, c⟩ | _ | _ | ⟨mc, c⟩
  · rcases (joinSite_join_eq_on kind c).mp hs with ⟨e, rfl⟩ | ⟨_, rfl⟩
    · exact congrArg (JoinOperator.join kind) (hg (some e))
    · exact congrArg (JoinOperator.join kind) (hg none)
  · simp [joinSite] at hs
  · simp [joinSite] at hs
  · rcases (joinSite_asOf_eq_on mc c).mp hs with ⟨e, rfl⟩ | rfl
    · exact congrArg (JoinOperator.asOf mc) (hg (some e))
    · exact congrArg (JoinOperator.asOf mc) (hg none)

/-- A join keeps its `ON` slot when its `ON` clause stays one and a missing constraint stays
missing or becomes an `ON` clause. -/
theorem joinSite_mapConstraint_of_on {op : JoinOperator} (hs : joinSite op = .on)
    {g : JoinConstraint → JoinConstraint} (hon : ∀ e, ∃ e', g (.on e) = .on e')
    (hnone : g .none = .none ∨ ∃ e', g .none = .on e') :
    joinSite (op.mapConstraint g) = .on := by
  rcases op with ⟨kind, c⟩ | _ | _ | ⟨mc, c⟩
  · show joinSite (.join kind (g c)) = .on
    rw [joinSite_join_eq_on]
    rcases (joinSite_join_eq_on kind c).mp hs with ⟨e, rfl⟩ | ⟨hk, rfl⟩
    · exact .inl (hon e)
    · rcases hnone with h | h
      · exact .inr ⟨hk, h⟩
      · exact .inl h
  · simp [joinSite] at hs
  · simp [joinSite] at hs
  · show joinSite (.asOf mc (g c)) = .on
    rw [joinSite_asOf_eq_on]
    rcases (joinSite_asOf_eq_on mc c).mp hs with ⟨e, rfl⟩ | rfl
    · exact .inl (hon e)
    · exact hnone.symm

/-- Conditions to add to the predicate slots: for the `WHERE` of a block, by its sources;
for the `ON` of a join, by its right side. -/
structure Placement where
  atWhere : List TableWithJoins → List Condition
  atOn : TableFactor → List Condition

namespace Placement

/-- No conditions anywhere. -/
protected def none : Placement := ⟨fun _ => [], fun _ => []⟩

/-- The conditions of one placement followed, slot by slot, by those of another. -/
instance : Append Placement := ⟨fun π π' =>
  ⟨fun ts => π.atWhere ts ++ π'.atWhere ts, fun rel => π.atOn rel ++ π'.atOn rel⟩⟩

@[simp] theorem append_atWhere (π π' : Placement) (ts : List TableWithJoins) :
    (π ++ π').atWhere ts = π.atWhere ts ++ π'.atWhere ts := rfl

@[simp] theorem append_atOn (π π' : Placement) (rel : TableFactor) :
    (π ++ π').atOn rel = π.atOn rel ++ π'.atOn rel := rfl

theorem none_append (π : Placement) : Placement.none ++ π = π := rfl

/-- The slot map that appends the conditions of a placement: to the `WHERE` of each block,
and to the `ON` of each join that has or may have one. -/
def adding (π : Placement) : SlotMap where
  atWhere ts w := Filter.addPredicates w ((π.atWhere ts).map Condition.toExpr)
  atOn
    | .mk rel op, c =>
      if joinSite op = .on then addOnPredicates c ((π.atOn rel).map Condition.toExpr) else c

@[simp] theorem adding_atWhere (π : Placement) (ts : List TableWithJoins) (w : Option Expr) :
    π.adding.atWhere ts w = Filter.addPredicates w ((π.atWhere ts).map Condition.toExpr) := rfl

theorem adding_atOn (π : Placement) (rel : TableFactor) (op : JoinOperator) :
    π.adding.atOn (.mk rel op) = fun c =>
      if joinSite op = .on then addOnPredicates c ((π.atOn rel).map Condition.toExpr) else c := rfl

theorem joinSite_adding (π : Placement) (rel : TableFactor) (op : JoinOperator) :
    joinSite (op.mapConstraint (π.adding.atOn (.mk rel op))) = joinSite op := by
  by_cases hs : joinSite op = .on
  · simp only [adding, hs, if_true]
    exact joinSite_mapConstraint_of_on hs (fun e => addOnPredicates_on e _) (addOnPredicates_none _)
  · simp only [adding, hs, if_false]
    exact congrArg joinSite (JoinOperator.mapConstraint_id op)

theorem adding_none : Placement.none.adding = SlotMap.id := by
  apply SlotMap.ext
  · rfl
  · funext j c
    rcases j with ⟨rel, op⟩
    simp [adding, SlotMap.id, addOnPredicates, Placement.none]

end Placement

/-! ## Erasing a filter's conditions -/

/-- The slot with its last `n` conjuncts dropped. A condition added to a slot is the right
side of an `AND` whose left side is the parenthesised slot before it, or the whole slot when
the slot was empty. -/
def dropConjuncts : Nat → Option Expr → Option Expr
  | 0, w => w
  | n + 1, some (.binary (.nested e) .and _) => dropConjuncts n (some e)
  | _ + 1, _ => none

/-- A constraint with the last `n` conjuncts of its `ON` clause dropped; an `ON` clause left
empty goes back to no constraint. -/
def dropOnConjuncts (n : Nat) : JoinConstraint → JoinConstraint
  | .on e => onClause (dropConjuncts n (some e))
  | c => c

theorem dropConjuncts_none (n : Nat) : dropConjuncts n none = none := by
  cases n <;> rfl

/-- Dropping one conjunct for each condition added, and `k` more, drops `k` from the slot as
it was. -/
theorem dropConjuncts_addPredicates (w : Option Expr) (cs : List Condition) (k : Nat) :
    dropConjuncts (cs.length + k) (Filter.addPredicates w (cs.map Condition.toExpr)) =
      dropConjuncts k w := by
  induction cs generalizing w k with
  | nil => simp [Filter.addPredicates]
  | cons c cs ih =>
    have hk : (c :: cs).length + k = cs.length + (k + 1) := by simp only [List.length_cons]; omega
    rw [hk]
    simp only [List.map_cons, Filter.addPredicates, List.foldl_cons] at ih ⊢
    rw [ih]
    -- a condition is an equality, never a conjunction, so it is dropped whole
    cases w with
    | none => rw [dropConjuncts_none]; rfl
    | some e => rfl

theorem dropOnConjuncts_addOnPredicates (v : Option Expr) (cs : List Condition) :
    dropOnConjuncts cs.length (addOnPredicates (onClause v) (cs.map Condition.toExpr)) = onClause v := by
  rw [addOnPredicates_onClause]
  cases hv : Filter.addPredicates v (cs.map Condition.toExpr) with
  | none =>
    -- nothing was added to an empty clause
    cases v with
    | none => rfl
    | some e =>
      obtain ⟨e', he'⟩ := addPredicates_some e (cs.map Condition.toExpr)
      rw [hv] at he'
      cases he'
  | some e' =>
    have hdrop := dropConjuncts_addPredicates v cs 0
    rw [hv] at hdrop
    simp only [onClause, dropOnConjuncts, Nat.add_zero] at hdrop ⊢
    rw [hdrop]
    rfl

namespace Filter

/-- Where a filter puts its conditions: in the `WHERE` of a block, one for each reference its
sources hand on; in the `ON` of a join, one for each reference the join's right side hands on. -/
def placement (f : Filter) : Placement :=
  ⟨fun ts => (f.exposedFrom ts).map f.condition.withTable,
    fun rel => (f.exposedFactor rel).map f.condition.withTable⟩

/-- The slot map that drops a filter's conditions: from each `WHERE` as many trailing
conjuncts as the block's sources hand on, and from each `ON` as many as the join's right side
hands on. -/
def erasing (f : Filter) : SlotMap where
  atWhere ts w := dropConjuncts (f.exposedFrom ts).length w
  atOn
    | .mk rel op, c =>
      if joinSite op = .on then dropOnConjuncts (f.exposedFactor rel).length c else c

theorem erasing_atOn (f : Filter) (rel : TableFactor) (op : JoinOperator) :
    f.erasing.atOn (.mk rel op) = fun c =>
      if joinSite op = .on then dropOnConjuncts (f.exposedFactor rel).length c else c := rfl

/-- Erasing a filter's conditions from the statement they were added to gives back the
statement: the `ON` clauses they created go back to no constraint. -/
theorem erasing_adding (f : Filter) (s : Statement) :
    f.erasing.statement (f.placement.adding.statement s) = s := by
  have hm := Placement.joinSite_adding f.placement
  apply SlotMap.statement_leftInverse
  · intro ts w
    have hdrop := dropConjuncts_addPredicates (f.erasing.optExpr w) (f.placement.atWhere ts) 0
    simp only [placement, List.length_map, Nat.add_zero] at hdrop
    simp only [Placement.adding_atWhere, SlotMap.optExpr_addPredicates, erasing,
      SlotMap.exposedFrom_map hm]
    exact hdrop
  · intro rel op
    rw [erasing_atOn, hm, SlotMap.exposedFactor_map hm, Placement.adding_atOn,
      JoinOperator.mapConstraint_mapConstraint]
    by_cases hs : joinSite op = .on
    · -- the conditions added to the `ON` are the ones dropped from it
      refine mapConstraint_eq_self_of_joinSite hs fun v => ?_
      have h := dropOnConjuncts_addOnPredicates v (f.placement.atOn rel)
      simp only [placement, List.length_map] at h
      simp only [Function.comp, hs, if_true, placement]
      exact h
    · simp only [hs, if_false]
      exact JoinOperator.mapConstraint_id op

end Filter

end SqlScope.Scope
