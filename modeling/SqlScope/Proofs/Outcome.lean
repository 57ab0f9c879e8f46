import SqlScope.Proofs.Slots

/-!
# What scoping a statement gives

Scoping a statement either fails or rewrites it, and which of the two happens is decided by
the joins in scope alone. A filter checks the joins of a statement in a fixed order, each
join after its right side (`Joins.statement`), and fails at the first one it cannot scope:
a join whose right side hands on a reference to the filtered table and that has no clause
the condition could go to (`Filter.blocks`). The failure names the configured table and
the join as printed, its right side already scoped. When no join blocks it, scoping binds
the references slot by slot and gives the statement with the filter's conditions added to
its slots (`Placement.adding`), and nothing else changed.

The statements are proved for a statement that already holds the conditions of another
placement: scoping it adds the filter's conditions after them, binds the same references
and fails at the same joins. `Filter.Runs` says what a scoping step does from any
references bound before it; each scoping function gets one such statement, proved along
the traversal.

## Main statements

- `Filter.statement_runs`: the outcome of scoping a statement that holds other conditions.
- `Filter.scope_fails_iff`: scoping fails exactly at the first join in scope that has no
  clause for the condition of a filtered reference on its right, with an error naming the
  table and that join.
- `Filter.scope_changes_only_slots`: a successful scoping adds conditions to predicate slots
  and changes nothing else; erasing them gives back the statement.
- `Filter.placedStatement_eq_adding`: the statement placed reference by reference is the one
  the placement adds, so what is proved of either holds of the scoped statement.
- `Filter.scope_comm`: two filters scope a statement in either order alike, up to the order
  of the conditions in each slot.
-/

namespace SqlScope.Scope

open SqlScope.Sql

/-! ## The joins in scope -/

namespace Joins

mutual

/-- The joins a filter checks in a query, in the order it checks them. -/
def query : Query → List Join
  | .mk _ cs body .. => ctes cs ++ setExpr body

def ctes : List Cte → List Join
  | [] => []
  | .mk _ _ q :: rest => query q ++ ctes rest

def setExpr : SetExpr → List Join
  | .select s => select s
  | .query q => query q
  | .setOp _ _ l r => setExpr l ++ setExpr r
  | _ => []

def select : Select → List Join
  | .mk _ _ _ _ from_ w .. => fromList from_ ++ optExpr w

def fromList : List TableWithJoins → List Join
  | [] => []
  | t :: rest => twj t ++ fromList rest

def twj : TableWithJoins → List Join
  | .mk rel js => factor rel ++ joins js

def joins : List Join → List Join
  | [] => []
  | j :: rest => join j ++ joins rest

/-- A join is checked after the joins of its right side. -/
def join : Join → List Join
  | .mk rel op => factor rel ++ [.mk rel op]

def factor : TableFactor → List Join
  | .derived _ q _ => query q
  | .nested t _ => twj t
  | _ => []

def expr : Expr → List Join
  | .binary l _ r => expr l ++ expr r
  | .unary _ e | .nested e | .isTest e _ | .cast _ e _ | .interval e _ | .extract _ _ e
  | .collate e _ | .ceilFloor _ e _ => expr e
  | .isDistinctFrom l _ r | .quantified l _ _ r | .atTimeZone l r | .position l r
  | .memberOf l r => expr l ++ expr r
  | .inList e _ items => expr e ++ exprs items
  | .inSubquery e _ q => expr e ++ query q
  | .between e _ lo hi => expr e ++ (expr lo ++ expr hi)
  | .like e _ _ _ p _ => expr e ++ expr p
  | .call _ args wg filter _ window =>
    functionArgs args ++ (optExpr filter ++ (optWindow window ++ orderBys wg))
  | .exists _ q | .subquery q => query q
  | .case operand whens otherwise => optExpr operand ++ (whenBranches whens ++ optExpr otherwise)
  | .array _ elems | .tuple elems => exprs elems
  | .substring e s l _ _ => expr e ++ (optExpr s ++ optExpr l)
  | .trim _ what e chars => expr e ++ (optExpr what ++ exprs chars)
  | .convert _ e _ _ _ styles => expr e ++ exprs styles
  | .overlay e what start len => expr e ++ (expr what ++ (expr start ++ optExpr len))
  | .fieldAccess root chain => expr root ++ accesses chain
  | _ => []

def exprs : List Expr → List Join
  | [] => []
  | e :: rest => expr e ++ exprs rest

def optExpr : Option Expr → List Join
  | none => []
  | some e => expr e

def accesses : List Access → List Join
  | [] => []
  | .dot e :: rest | .index e :: rest => expr e ++ accesses rest
  | .slice lo up st :: rest => optExpr lo ++ (optExpr up ++ (optExpr st ++ accesses rest))

def whenBranches : List WhenBranch → List Join
  | [] => []
  | .mk c r :: rest => expr c ++ (expr r ++ whenBranches rest)

def functionArgs : FunctionArgs → List Join
  | .none => []
  | .subquery q => query q
  | .list _ args clauses => functionArgList args ++ argClauses clauses

def argClauses : List ArgClause → List Join
  | [] => []
  | .orderBy keys :: rest => orderBys keys ++ argClauses rest
  | .limit e :: rest | .having _ e :: rest => expr e ++ argClauses rest
  | .onOverflowTruncate filler _ :: rest => optExpr filler ++ argClauses rest
  | _ :: rest => argClauses rest

def functionArgList : List FunctionArg → List Join
  | [] => []
  | .unnamed e :: rest | .named _ _ e :: rest => expr e ++ functionArgList rest

def optWindow : Option WindowSpec → List Join
  | some (.spec _ parts orderBy frame) => exprs parts ++ (orderBys orderBy ++ optFrame frame)
  | _ => []

def optFrame : Option WindowFrame → List Join
  | none => []
  | some (.mk _ start finish) => frameBound start ++ optFrameBound finish

def optFrameBound : Option FrameBound → List Join
  | none => []
  | some b => frameBound b

def frameBound : FrameBound → List Join
  | .currentRow => []
  | .preceding offset | .following offset => optExpr offset

def orderBys : List OrderByExpr → List Join
  | [] => []
  | .mk e _ _ :: rest => expr e ++ orderBys rest

end

def update (u : Update) : List Join :=
  twj u.table ++ (fromList (Filter.updateFromTables u.from_) ++ optExpr u.selection)

def delete (d : Delete) : List Join :=
  fromList d.from_ ++ (fromList (d.usingTables.getD []) ++ optExpr d.selection)

/-- The joins a filter checks in a statement, in the order it checks them. -/
def statement : Statement → List Join
  | .query q => query q
  | .update u => update u
  | .delete d => delete d
  | _ => []

end Joins

/-! ## Runs of a scoping step -/

namespace Filter

/-- Whether the filter cannot scope a join: the join has no clause for the conditions of its
right side, and its right side hands some on. -/
def blocks (f : Filter) : Join → Bool
  | .mk rel op => decide (joinSite op = .unsupported) && !(f.exposedFactor rel).isEmpty

/-- The failure at a join the filter cannot scope, once the conditions of `π` and then the
filter's own are in place on its right side. -/
def failure (f : Filter) (π : Placement) : Join → RewriteError
  | .mk rel op => f.unsupported (.mk ((π ++ f.placement).adding.factor rel) op)

/-- A scoping step that, from any references bound before it, fails at the first of the joins
`js` that the filter cannot scope, with the failure there, and when there is none gives `a`
after binding `bs`. -/
def Runs (f : Filter) (π : Placement) (x : Scoping α) (js : List Join) (a : α)
    (bs : List Ident) : Prop :=
  ∀ st, match js.find? f.blocks with
    | some j => (x.run.run st).1 = .error (f.failure π j)
    | none => x.run.run st = (.ok a, st ++ bs)

namespace Runs

variable {f : Filter} {π : Placement}

/-- A step that returns at once passes the joins that do not block the filter. -/
theorem pure_of {js : List Join} (hjs : js.find? f.blocks = none) (a : α) :
    f.Runs π (Pure.pure a : Scoping α) js a [] := by
  intro st
  rw [hjs, List.append_nil]
  rfl

theorem pure (a : α) : f.Runs π (Pure.pure a : Scoping α) [] a [] :=
  pure_of List.find?_nil a

/-- A failing step fails at the first join that blocks the filter, if the failure is the one
there. -/
theorem throw_of {js : List Join} {j : Join} {e : RewriteError} (hj : js.find? f.blocks = some j)
    (he : e = f.failure π j) (a : α) (bs : List Ident) :
    f.Runs π (MonadExcept.throw e : Scoping α) js a bs := by
  intro st
  rw [hj, he]
  rfl

theorem bind {x : Scoping α} {g : α → Scoping β} {js js' : List Join} {a : α} {b : β}
    {bs bs' : List Ident} (hx : f.Runs π x js a bs) (hg : f.Runs π (g a) js' b bs') :
    f.Runs π (x >>= g) (js ++ js') b (bs ++ bs') := by
  intro st
  have hx' := hx st
  simp only [ExceptT.run_bind, StateT.run_bind, List.find?_append]
  rcases hr : x.run.run st with ⟨r, st₁⟩
  cases hj : js.find? f.blocks with
  | some j =>
    -- the step fails, and the continuation never runs
    rw [hj, hr] at hx'
    cases hx'
    rfl
  | none =>
    rw [hj, hr] at hx'
    cases hx'
    have hg' := hg (st ++ bs)
    simp only [Option.none_or]
    rw [← List.append_assoc]
    exact hg'

theorem of_eq {x : Scoping α} {js js' : List Join} {a a' : α} {bs bs' : List Ident}
    (hjs : js = js') (ha : a = a') (hbs : bs = bs') (h : f.Runs π x js a bs) :
    f.Runs π x js' a' bs' := by
  subst hjs ha hbs
  exact h

/-- A step followed by a continuation that returns at once, passing the joins `js'`. -/
theorem bind_pure_of {x : Scoping α} {g : α → Scoping β} {js js' : List Join} {a : α} {b : β}
    {bs : List Ident} (hx : f.Runs π x js a bs) (hjs' : js'.find? f.blocks = none)
    (hg : g a = Pure.pure b) : f.Runs π (x >>= g) (js ++ js') b bs :=
  of_eq rfl rfl (List.append_nil bs) (hx.bind (hg ▸ Runs.pure_of hjs' b))

/-- A step followed by a continuation that returns at once. -/
theorem bind_pure {x : Scoping α} {g : α → Scoping β} {js : List Join} {a : α} {b : β}
    {bs : List Ident} (hx : f.Runs π x js a bs) (hg : g a = Pure.pure b) :
    f.Runs π (x >>= g) js b bs :=
  of_eq (List.append_nil js) rfl rfl (hx.bind_pure_of List.find?_nil hg)

end Runs

/-! ## Scoping over added conditions -/

variable (f : Filter)

/-- A condition holds no query: scoping it binds nothing and changes nothing. -/
theorem expr_toExpr (c : Condition) : f.expr c.toExpr = pure c.toExpr := rfl

theorem optExpr_addPredicate (w : Option Expr) (c : Condition) :
    f.optExpr (addPredicate w c.toExpr) =
      f.optExpr w >>= fun w' => pure (addPredicate w' c.toExpr) := by
  cases w with
  | none => simp only [addPredicate, conjoin, Filter.optExpr, expr_toExpr, pure_bind]
  | some e =>
    -- one step of scoping each part of `(e) AND c`, the condition binding nothing
    have hand : f.expr (.binary (.nested e) .and c.toExpr) =
        f.expr e >>= fun e' => pure (.binary (.nested e') .and c.toExpr) := by
      change (f.expr e >>= fun e' => pure (Expr.nested e')) >>= (fun l => f.expr c.toExpr >>= fun r =>
        pure (Expr.binary l .and r)) = _
      simp only [expr_toExpr, bind_assoc, pure_bind]
    change f.expr (.binary (.nested e) .and c.toExpr) >>= (fun x => pure (some x)) =
      (f.expr e >>= fun x => pure (some x)) >>= _
    simp only [hand, bind_assoc, pure_bind]
    rfl

/-- Scoping a slot that holds added conditions scopes what was there before them. -/
theorem optExpr_addPredicates (w : Option Expr) (cs : List Condition) :
    f.optExpr (addPredicates w (cs.map Condition.toExpr)) =
      f.optExpr w >>= fun w' => pure (addPredicates w' (cs.map Condition.toExpr)) := by
  induction cs generalizing w with
  | nil => simp [addPredicates]
  | cons c cs ih =>
    simp only [List.map_cons, addPredicates, List.foldl_cons] at ih ⊢
    rw [ih, optExpr_addPredicate, bind_assoc]
    simp only [pure_bind]

/-- The conditions for `qs` added to the `ON` clause of a join, as a map of its constraint. -/
theorem withOn_eq_mapConstraint (op : JoinOperator) (qs : List Ident) :
    f.withOn op qs = op.mapConstraint fun c => addOnPredicates c (qs.map f.predicate) := by
  induction qs generalizing op with
  | nil => exact (JoinOperator.mapConstraint_id op).symm
  | cons q qs ih =>
    rw [withOn, List.foldl_cons, ← withOn, ih]
    rcases op with ⟨kind, c⟩ | _ | _ | ⟨mc, c⟩ <;> rfl

theorem exposedFrom_append (ts ts' : List TableWithJoins) :
    f.exposedFrom (ts ++ ts') = f.exposedFrom ts ++ f.exposedFrom ts' := by
  induction ts with
  | nil => rfl
  | cons t ts ih => rw [List.cons_append, exposedFrom, exposedFrom, ih, List.append_assoc]

/-- The filter's conditions go to the `WHERE` of a block after those of `π`, one for each
reference its sources hand on. -/
theorem adding_placement_atWhere (π : Placement) (ts : List TableWithJoins) (w : Option Expr) :
    (π ++ f.placement).adding.atWhere ts w =
      addPredicates (π.adding.atWhere ts w) ((f.exposedFrom ts).map f.predicate) := by
  simp only [Placement.adding_atWhere, Placement.append_atWhere, List.map_append, addPredicates,
    List.foldl_append, placement, List.map_map]
  rfl

/-- The filter's conditions go to the `ON` clause of a join after those of `π`, one for each
reference its right side hands on, when the join has or may have an `ON` clause. -/
theorem mapConstraint_adding_placement (π : Placement) (rel : TableFactor) (op : JoinOperator) :
    op.mapConstraint ((π ++ f.placement).adding.atOn (.mk rel op)) =
      if joinSite op = .on then
        f.withOn (op.mapConstraint (π.adding.atOn (.mk rel op))) (f.exposedFactor rel)
      else op.mapConstraint (π.adding.atOn (.mk rel op)) := by
  rw [withOn_eq_mapConstraint, JoinOperator.mapConstraint_mapConstraint]
  by_cases hs : joinSite op = .on
  · simp only [Placement.adding_atOn, hs, if_true, Placement.append_atOn, List.map_append,
      addOnPredicates, List.foldl_append, placement, List.map_map]
    rfl
  · simp only [Placement.adding_atOn, hs, if_false]

theorem mapConstraint_adding_of_ne {op : JoinOperator} (hs : joinSite op ≠ .on) (π : Placement)
    (rel : TableFactor) : op.mapConstraint (π.adding.atOn (.mk rel op)) = op := by
  simp only [Placement.adding_atOn, hs, if_false]
  exact JoinOperator.mapConstraint_id op

/-! ## Each step of the traversal -/

variable {π : Placement}

theorem bindTo_runs (q : Ident) : f.Runs π (f.bindTo q) [] (f.predicate q) [q] := by
  intro st
  rfl

theorem bindEach_runs (qs : List Ident) : f.Runs π (f.bindEach qs) [] (qs.map f.predicate) qs := by
  induction qs with
  | nil => exact Runs.pure _
  | cons q qs ih =>
    rw [bindEach, List.mapM_cons]
    exact (f.bindTo_runs q).bind (ih.bind_pure rfl)

theorem bindAllOn_runs (op : JoinOperator) (qs : List Ident) :
    f.Runs π (f.bindAllOn op qs) [] (f.withOn op qs) qs := by
  induction qs generalizing op with
  | nil => exact Runs.pure _
  | cons q qs ih => exact (f.bindTo_runs q).bind (ih _)

/-- The `WHERE` of a block that holds the conditions of `π`: its subqueries are scoped, and
the conditions of `π` stay after them. -/
theorem where_runs (ts : List TableWithJoins) {w : Option Expr} {js : List Join} {bs : List Ident}
    (h : f.Runs π (f.optExpr (π.adding.optExpr w)) js ((π ++ f.placement).adding.optExpr w) bs) :
    f.Runs π (f.optExpr (π.adding.atWhere ts (π.adding.optExpr w))) js
      (π.adding.atWhere ts ((π ++ f.placement).adding.optExpr w)) bs := by
  rw [Placement.adding_atWhere, optExpr_addPredicates]
  exact h.bind_pure rfl

/-- A join whose right side is scoped as the placement says: it fails when it has no clause
for what its right side hands on, and otherwise puts that where it takes conditions. -/
theorem join_runs_of (rel : TableFactor) (op : JoinOperator) {js : List Join} {bs : List Ident}
    (h : f.Runs π (f.tableFactor (π.adding.factor rel)) js
      ((π ++ f.placement).adding.factor rel, f.exposedFactor rel) bs) :
    f.Runs π (f.join (π.adding.join (.mk rel op))) (js ++ [Join.mk rel op])
      ((π ++ f.placement).adding.join (.mk rel op),
        if joinSite op = .enclosing then f.exposedFactor rel else [])
      (bs ++ if joinSite op = .on then f.exposedFactor rel else []) := by
  rw [SlotMap.join, SlotMap.join, Filter.join]
  refine h.bind ?_
  dsimp only
  rw [Placement.joinSite_adding, mapConstraint_adding_placement]
  cases hq : f.exposedFactor rel with
  | nil =>
    -- nothing is handed on: the join passes as it is
    have hb : [Join.mk rel op].find? f.blocks = none := by simp [blocks, hq]
    simp only [List.isEmpty_nil, if_true, withOn, List.foldl_nil, ite_self]
    exact Runs.pure_of hb _
  | cons q qs =>
    simp only [List.isEmpty_cons, Bool.false_eq_true, if_false]
    cases hs : joinSite op with
    | on =>
      have hb : [Join.mk rel op].find? f.blocks = none := by simp [blocks, hs]
      exact (f.bindAllOn_runs _ _).bind_pure_of hb rfl
    | enclosing =>
      have hb : [Join.mk rel op].find? f.blocks = none := by simp [blocks, hs]
      exact Runs.pure_of hb _
    | unsupported =>
      have hb : [Join.mk rel op].find? f.blocks = some (.mk rel op) := by simp [blocks, hs, hq]
      refine Runs.throw_of hb ?_ _ _
      rw [mapConstraint_adding_of_ne (by simp [hs])]
      rfl

/-! ## The traversal

Each scoping function, run on a part that already holds the conditions of `π`, checks the
joins of the part in order and, when none blocks it, gives the part with the filter's
conditions added after those of `π` and binds the references of its slots. The proofs
follow the functions case by case; a `WHERE` is scoped through the conditions of `π` in it
(`where_runs`), and a join as `join_runs_of` says. -/

mutual

theorem query_runs : (q : Query) →
    f.Runs π (f.query (π.adding.query q)) (Joins.query q) ((π ++ f.placement).adding.query q)
      (f.sitesQuery q)
  | .mk _ cs body .. => (ctes_runs cs).bind ((setExpr_runs body).bind_pure rfl)

theorem ctes_runs : (cs : List Cte) →
    f.Runs π (f.ctes (π.adding.ctes cs)) (Joins.ctes cs) ((π ++ f.placement).adding.ctes cs)
      (f.sitesCtes cs)
  | [] => Runs.pure _
  | .mk _ _ q :: rest => (query_runs q).bind ((ctes_runs rest).bind_pure rfl)

theorem setExpr_runs : (e : SetExpr) →
    f.Runs π (f.setExpr (π.adding.setExpr e)) (Joins.setExpr e)
      ((π ++ f.placement).adding.setExpr e) (f.sitesSetExpr e)
  | .select s => (select_runs s).bind_pure rfl
  | .query q => (query_runs q).bind_pure rfl
  | .setOp _ _ l r => (setExpr_runs l).bind ((setExpr_runs r).bind_pure rfl)
  | .values .. | .table _ | .dml _ => Runs.pure _

theorem select_runs : (s : Select) →
    f.Runs π (f.select (π.adding.select s)) (Joins.select s) ((π ++ f.placement).adding.select s)
      (f.sitesSelect s)
  | .mk _ _ _ _ from_ w .. =>
    (fromList_runs from_).bind ((f.where_runs from_ (optExpr_runs w)).bind_pure
      (by rw [SlotMap.select, adding_placement_atWhere]))

/-- A `FROM` list binds each source's own slots, then what the source hands to the
`WHERE`, source by source. -/
theorem fromList_runs : (ts : List TableWithJoins) →
    f.Runs π (f.fromList (π.adding.fromList ts)) (Joins.fromList ts)
      ((π ++ f.placement).adding.fromList ts, (f.exposedFrom ts).map f.predicate) (f.sitesFrom ts)
  | [] => Runs.pure _
  | t :: rest =>
    (twj_runs t).bind ((f.bindEach_runs _).bind
      ((fromList_runs rest).bind_pure (by simp only [exposedFrom, List.map_append]; rfl)))

theorem twj_runs : (t : TableWithJoins) →
    f.Runs π (f.tableWithJoins (π.adding.twj t)) (Joins.twj t)
      ((π ++ f.placement).adding.twj t, f.exposedTwj t) (f.sitesTwj t)
  | .mk rel js => (factor_runs rel).bind ((joins_runs js).bind_pure rfl)

theorem joins_runs : (js : List Join) →
    f.Runs π (f.joins (π.adding.joins js)) (Joins.joins js)
      ((π ++ f.placement).adding.joins js, f.exposedJoins js) (f.sitesJoins js)
  | [] => Runs.pure _
  | .mk rel op :: rest =>
    (f.join_runs_of rel op (factor_runs rel)).bind ((joins_runs rest).bind_pure rfl)

theorem factor_runs : (t : TableFactor) →
    f.Runs π (f.tableFactor (π.adding.factor t)) (Joins.factor t)
      ((π ++ f.placement).adding.factor t, f.exposedFactor t) (f.sitesFactor t)
  | .table name ps args aliasName ih hints v sample ord => by
    by_cases hm : f.target.refersTo name (aliasName.map (·.name)) = true
    · simp only [SlotMap.factor, Filter.tableFactor, exposedFactor, hm]
      exact Runs.pure _
    · simp only [SlotMap.factor, Filter.tableFactor, exposedFactor, hm]
      exact Runs.pure _
  | .derived _ q _ => (query_runs q).bind_pure rfl
  | .nested t _ => (twj_runs t).bind_pure rfl
  | .unnest .. | .function .. | .tableFunction .. | .columnsFunction .. | .pivot .. | .unpivot .. =>
    Runs.pure _

theorem expr_runs : (e : Expr) →
    f.Runs π (f.expr (π.adding.expr e)) (Joins.expr e) ((π ++ f.placement).adding.expr e)
      (f.sitesExpr e)
  | .unary _ e | .nested e | .isTest e _ | .cast _ e _ | .interval e _ | .extract _ _ e
  | .collate e _ | .ceilFloor _ e _ => (expr_runs e).bind_pure rfl
  | .binary l _ r | .isDistinctFrom l _ r | .quantified l _ _ r | .atTimeZone l r | .position l r
  | .memberOf l r | .like l _ _ _ r _ => (expr_runs l).bind ((expr_runs r).bind_pure rfl)
  | .inList e _ items | .convert _ e _ _ _ items =>
    (expr_runs e).bind ((exprs_runs items).bind_pure rfl)
  | .inSubquery e _ q => (expr_runs e).bind ((query_runs q).bind_pure rfl)
  | .between e _ lo hi =>
    (expr_runs e).bind ((expr_runs lo).bind ((expr_runs hi).bind_pure rfl))
  | .call _ args wg filter _ window =>
    (functionArgs_runs args).bind ((optExpr_runs filter).bind
      ((optWindow_runs window).bind ((orderBys_runs wg).bind_pure rfl)))
  | .exists _ q | .subquery q => (query_runs q).bind_pure rfl
  | .case operand whens otherwise =>
    (optExpr_runs operand).bind ((whens_runs whens).bind ((optExpr_runs otherwise).bind_pure rfl))
  | .array _ elems | .tuple elems => (exprs_runs elems).bind_pure rfl
  | .substring e s l _ _ =>
    (expr_runs e).bind ((optExpr_runs s).bind ((optExpr_runs l).bind_pure rfl))
  | .trim _ what e chars =>
    (expr_runs e).bind ((optExpr_runs what).bind ((exprs_runs chars).bind_pure rfl))
  | .overlay e what start len =>
    (expr_runs e).bind ((expr_runs what).bind
      ((expr_runs start).bind ((optExpr_runs len).bind_pure rfl)))
  | .fieldAccess root chain => (expr_runs root).bind ((accesses_runs chain).bind_pure rfl)
  | .ident _ | .compound _ | .wildcard | .qualifiedWildcard _ | .value _ | .typedString ..
  | .introduced .. | .matchAgainst .. | .groupingSets _ | .cube _ | .rollup _ => Runs.pure _

theorem exprs_runs : (es : List Expr) →
    f.Runs π (f.exprs (π.adding.exprs es)) (Joins.exprs es) ((π ++ f.placement).adding.exprs es)
      (f.sitesExprs es)
  | [] => Runs.pure _
  | e :: rest => (expr_runs e).bind ((exprs_runs rest).bind_pure rfl)

theorem optExpr_runs : (e : Option Expr) →
    f.Runs π (f.optExpr (π.adding.optExpr e)) (Joins.optExpr e)
      ((π ++ f.placement).adding.optExpr e) (f.sitesOptExpr e)
  | none => Runs.pure _
  | some e => (expr_runs e).bind_pure rfl

theorem accesses_runs : (as : List Access) →
    f.Runs π (f.accesses (π.adding.accesses as)) (Joins.accesses as)
      ((π ++ f.placement).adding.accesses as) (f.sitesAccesses as)
  | [] => Runs.pure _
  | .dot e :: rest | .index e :: rest =>
    (expr_runs e).bind ((Runs.pure _).bind ((accesses_runs rest).bind_pure rfl))
  | .slice lo up st :: rest =>
    (optExpr_runs lo).bind ((optExpr_runs up).bind ((optExpr_runs st).bind
      ((Runs.pure _).bind ((accesses_runs rest).bind_pure rfl))))

theorem whens_runs : (ws : List WhenBranch) →
    f.Runs π (f.whens (π.adding.whens ws)) (Joins.whenBranches ws)
      ((π ++ f.placement).adding.whens ws) (f.sitesWhens ws)
  | [] => Runs.pure _
  | .mk c r :: rest =>
    (expr_runs c).bind ((expr_runs r).bind ((whens_runs rest).bind_pure rfl))

theorem functionArgs_runs : (a : FunctionArgs) →
    f.Runs π (f.functionArgs (π.adding.functionArgs a)) (Joins.functionArgs a)
      ((π ++ f.placement).adding.functionArgs a) (f.sitesFunctionArgs a)
  | .none => Runs.pure _
  | .subquery q => (query_runs q).bind_pure rfl
  | .list _ args clauses =>
    (functionArgList_runs args).bind ((argClauses_runs clauses).bind_pure rfl)

theorem argClauses_runs : (cs : List ArgClause) →
    f.Runs π (f.argClauses (π.adding.argClauses cs)) (Joins.argClauses cs)
      ((π ++ f.placement).adding.argClauses cs) (f.sitesArgClauses cs)
  | [] => Runs.pure _
  | .orderBy keys :: rest =>
    (orderBys_runs keys).bind ((Runs.pure _).bind ((argClauses_runs rest).bind_pure rfl))
  | .limit e :: rest | .having _ e :: rest =>
    (expr_runs e).bind ((Runs.pure _).bind ((argClauses_runs rest).bind_pure rfl))
  | .onOverflowTruncate filler _ :: rest =>
    (optExpr_runs filler).bind ((Runs.pure _).bind ((argClauses_runs rest).bind_pure rfl))
  | .nullTreatment _ :: rest | .separator _ :: rest | .onOverflowError :: rest | .jsonNull _ :: rest
  | .returning _ :: rest => (Runs.pure _).bind ((argClauses_runs rest).bind_pure rfl)

theorem functionArgList_runs : (as : List FunctionArg) →
    f.Runs π (f.functionArgList (π.adding.functionArgList as)) (Joins.functionArgList as)
      ((π ++ f.placement).adding.functionArgList as) (f.sitesFunctionArgList as)
  | [] => Runs.pure _
  | .unnamed e :: rest | .named _ _ e :: rest =>
    (expr_runs e).bind ((Runs.pure _).bind ((functionArgList_runs rest).bind_pure rfl))

theorem optWindow_runs : (w : Option WindowSpec) →
    f.Runs π (f.optWindow (π.adding.optWindow w)) (Joins.optWindow w)
      ((π ++ f.placement).adding.optWindow w) (f.sitesOptWindow w)
  | none | some (.named _) => Runs.pure _
  | some (.spec _ parts orderBy frame) =>
    (exprs_runs parts).bind ((orderBys_runs orderBy).bind ((optFrame_runs frame).bind_pure rfl))

theorem optFrame_runs : (w : Option WindowFrame) →
    f.Runs π (f.optFrame (π.adding.optFrame w)) (Joins.optFrame w)
      ((π ++ f.placement).adding.optFrame w) (f.sitesOptFrame w)
  | none => Runs.pure _
  | some (.mk _ start finish) =>
    (frameBound_runs start).bind ((optFrameBound_runs finish).bind_pure rfl)

theorem optFrameBound_runs : (b : Option FrameBound) →
    f.Runs π (f.optFrameBound (π.adding.optFrameBound b)) (Joins.optFrameBound b)
      ((π ++ f.placement).adding.optFrameBound b) (f.sitesOptFrameBound b)
  | none => Runs.pure _
  | some b => (frameBound_runs b).bind_pure rfl

theorem frameBound_runs : (b : FrameBound) →
    f.Runs π (f.frameBound (π.adding.frameBound b)) (Joins.frameBound b)
      ((π ++ f.placement).adding.frameBound b) (f.sitesFrameBound b)
  | .currentRow => Runs.pure _
  | .preceding offset | .following offset => (optExpr_runs offset).bind_pure rfl

theorem orderBys_runs : (os : List OrderByExpr) →
    f.Runs π (f.orderBys (π.adding.orderBys os)) (Joins.orderBys os)
      ((π ++ f.placement).adding.orderBys os) (f.sitesOrderBys os)
  | [] => Runs.pure _
  | .mk e _ _ :: rest => (expr_runs e).bind ((orderBys_runs rest).bind_pure rfl)

end

theorem update_runs (u : Update) :
    f.Runs π (f.update (π.adding.update u)) (Joins.update u) ((π ++ f.placement).adding.update u)
      (f.sitesUpdate u) := by
  obtain ⟨_, table, _, from_, selection, _, _⟩ := u
  rcases from_ with _ | ⟨ts⟩ | ⟨ts⟩
  · exact (f.twj_runs table).bind ((f.bindEach_runs _).bind ((Runs.pure _).bind
      ((f.where_runs _ (f.optExpr_runs selection)).bind_pure
        (by simp only [SlotMap.update, SlotMap.updateFrom, adding_placement_atWhere, exposedFrom,
          updateFromTables, List.append_nil]))))
  -- a `FROM` list before `SET` and one after it are scoped alike
  all_goals
    exact (f.twj_runs table).bind ((f.bindEach_runs _).bind ((f.fromList_runs ts).bind
      ((f.where_runs _ (f.optExpr_runs selection)).bind_pure
        (by simp only [SlotMap.update, SlotMap.updateFrom, adding_placement_atWhere, exposedFrom,
          updateFromTables, List.map_append]))))

theorem delete_runs (d : Delete) :
    f.Runs π (f.delete (π.adding.delete d)) (Joins.delete d) ((π ++ f.placement).adding.delete d)
      (f.sitesDelete d) := by
  obtain ⟨_, _, from_, usingTables, selection, _, _, _⟩ := d
  rcases usingTables with _ | ts
  · exact (f.fromList_runs from_).bind ((Runs.pure _).bind
      ((f.where_runs _ (f.optExpr_runs selection)).bind_pure
        (by simp only [SlotMap.delete, adding_placement_atWhere, Option.getD, List.append_nil, Option.map])))
  · exact (f.fromList_runs from_).bind ((f.fromList_runs ts).bind
      ((f.where_runs _ (f.optExpr_runs selection)).bind_pure
        (by simp only [SlotMap.delete, adding_placement_atWhere, exposedFrom_append, Option.getD,
          List.map_append, Option.map])))

/-- Scoping a statement that holds the conditions of `π` checks the joins in scope in order,
fails at the first one it cannot scope, and otherwise adds the filter's conditions after
those of `π` and binds the references of its slots, as on the statement without them. -/
theorem statement_runs (π : Placement) : (s : Statement) →
    f.Runs π (f.statement (π.adding.statement s)) (Joins.statement s)
      ((π ++ f.placement).adding.statement s) (f.sitesStatement s)
  | .query q => (f.query_runs q).bind_pure rfl
  | .update u => (f.update_runs u).bind_pure rfl
  | .delete d => (f.delete_runs d).bind_pure rfl
  | .insert _ | .other _ => Runs.pure _

/-! ## What scoping reports -/

/-- Scoping a statement that holds the conditions of `π`, when no join in scope blocks the
filter: the filter's conditions go after them. -/
theorem scope_adding_of_find?_eq_none (π : Placement) {s : Statement}
    (h : (Joins.statement s).find? f.blocks = none) :
    f.scope (π.adding.statement s) =
      (f.sitesStatement s, .ok ((π ++ f.placement).adding.statement s)) := by
  have hr := f.statement_runs π s []
  rw [h] at hr
  dsimp only at hr
  simp only [scope, Id.run, hr, List.nil_append]

theorem scope_adding_of_find?_eq_some (π : Placement) {s : Statement} {j : Join}
    (h : (Joins.statement s).find? f.blocks = some j) :
    (f.scope (π.adding.statement s)).2 = .error (f.failure π j) := by
  have hr := f.statement_runs π s []
  rw [h] at hr
  dsimp only at hr
  rcases hx : (f.statement (π.adding.statement s)).run.run [] with ⟨r, b⟩
  rw [hx] at hr
  simp only [scope, Id.run, hx]
  exact hr

theorem scope_of_find?_eq_none {s : Statement} (h : (Joins.statement s).find? f.blocks = none) :
    f.scope s = (f.sitesStatement s, .ok (f.placement.adding.statement s)) := by
  have h' := f.scope_adding_of_find?_eq_none .none h
  rwa [Placement.adding_none, SlotMap.statement_id, Placement.none_append] at h'

theorem scope_of_find?_eq_some {s : Statement} {j : Join}
    (h : (Joins.statement s).find? f.blocks = some j) :
    (f.scope s).2 = .error (f.failure .none j) := by
  have h' := f.scope_adding_of_find?_eq_some .none h
  rwa [Placement.adding_none, SlotMap.statement_id] at h'

/-- A scoping that succeeds met no join that blocks the filter, and added its conditions. -/
theorem scope_eq_ok {s s' : Statement} (h : (f.scope s).2 = .ok s') :
    (Joins.statement s).find? f.blocks = none ∧ s' = f.placement.adding.statement s := by
  cases hj : (Joins.statement s).find? f.blocks with
  | none =>
    rw [f.scope_of_find?_eq_none hj] at h
    cases h
    exact ⟨rfl, rfl⟩
  | some j =>
    rw [f.scope_of_find?_eq_some hj] at h
    cases h

/-- Where no join blocks the filter, the statement the scoping builds reference by reference
(`placedStatement`) is the one its placement's slot map gives: the two accounts of a
successful scoping describe the same statement. -/
theorem placedStatement_eq_adding {s : Statement} (h : (Joins.statement s).find? f.blocks = none) :
    f.placedStatement s = f.placement.adding.statement s := by
  -- both are the value of the one successful run
  obtain ⟨hs, -, -⟩ :=
    f.statement_succeeds s [] _ _ (run_of_scope (f.scope_of_find?_eq_none h))
  exact hs.symm

end Filter

/-! ## The joins that reject a filtered table -/

/-- The joins with no clause a condition could go to: an outer, semi or anti join, or an
`ASOF` join, written with `USING` or `NATURAL`, and an `APPLY`. -/
inductive NoConditionSlot : JoinOperator → Prop
  | outerUsing {kind : JoinKind} (cols : List Name) :
    isInnerJoin kind = false → NoConditionSlot (.join kind (.using cols))
  | outerNatural {kind : JoinKind} : isInnerJoin kind = false → NoConditionSlot (.join kind .natural)
  | asOfUsing (mc : Expr) (cols : List Name) : NoConditionSlot (.asOf mc (.using cols))
  | asOfNatural (mc : Expr) : NoConditionSlot (.asOf mc .natural)
  | crossApply : NoConditionSlot .crossApply
  | outerApply : NoConditionSlot .outerApply

theorem joinSite_eq_unsupported_iff (op : JoinOperator) :
    joinSite op = .unsupported ↔ NoConditionSlot op := by
  constructor
  · intro h
    rcases op with ⟨kind, c⟩ | _ | _ | ⟨mc, c⟩
    · cases hk : isInnerJoin kind <;> cases c <;> simp [joinSite, hk] at h
      · exact .outerUsing _ hk
      · exact .outerNatural hk
    · exact .crossApply
    · exact .outerApply
    · cases c <;> simp [joinSite] at h
      · exact .asOfUsing mc _
      · exact .asOfNatural mc
  · rintro (⟨_, hk⟩ | hk | _ | _ | _ | _) <;> simp [joinSite, *]

namespace Filter

variable (f : Filter)

theorem blocks_eq_true_iff (rel : TableFactor) (op : JoinOperator) :
    f.blocks (.mk rel op) = true ↔ NoConditionSlot op ∧ f.exposedFactor rel ≠ [] := by
  simp [blocks, joinSite_eq_unsupported_iff]

/-- Scoping fails exactly at the first join in scope that has no clause for a condition and
whose right side hands on a reference to the filtered table. The error names the table as
configured and that join as printed, its right side scoped; no other error is reported. -/
theorem scope_fails_iff (s : Statement) (e : RewriteError) :
    (f.scope s).2 = .error e ↔
      ∃ pre rel op post, Joins.statement s = pre ++ Join.mk rel op :: post ∧
        (∀ rel' op', Join.mk rel' op' ∈ pre → NoConditionSlot op' → f.exposedFactor rel' = []) ∧
        NoConditionSlot op ∧ f.exposedFactor rel ≠ [] ∧
        e = .unsupportedJoin f.target.raw
          (Text.trim (Join.mk (f.placement.adding.factor rel) op).render) := by
  constructor
  · intro he
    cases hj : (Joins.statement s).find? f.blocks with
    | none =>
      rw [f.scope_of_find?_eq_none hj] at he
      cases he
    | some j =>
      rw [f.scope_of_find?_eq_some hj] at he
      obtain ⟨hb, pre, post, hs, hpre⟩ := List.find?_eq_some_iff_append.mp hj
      obtain ⟨rel, op⟩ := j
      obtain ⟨hop, hrel⟩ := (f.blocks_eq_true_iff rel op).mp hb
      refine ⟨pre, rel, op, post, hs, fun rel' op' hm hop' => ?_, hop, hrel, ?_⟩
      · -- an earlier join did not block the filter
        have hnb := hpre _ hm
        simpa [blocks, (joinSite_eq_unsupported_iff op').mpr hop'] using hnb
      · cases he
        rfl
  · rintro ⟨pre, rel, op, post, hs, hpre, hop, hrel, rfl⟩
    have hj : (Joins.statement s).find? f.blocks = some (.mk rel op) := by
      refine List.find?_eq_some_iff_append.mpr
        ⟨(f.blocks_eq_true_iff rel op).mpr ⟨hop, hrel⟩, pre, post, hs, ?_⟩
      rintro ⟨rel', op'⟩ hm
      cases hb : f.blocks (.mk rel' op') with
      | false => rfl
      | true =>
        obtain ⟨hop', hne⟩ := (f.blocks_eq_true_iff rel' op').mp hb
        exact absurd (hpre rel' op' hm hop') hne
    rw [f.scope_of_find?_eq_some hj]
    rfl

/-- A successful scoping changes a statement only in its predicate slots: each `WHERE` and
each `ON` that takes conditions gets the conditions after what it held, the missing `ON` of an
outer join becoming one, and erasing them gives the statement back. -/
theorem scope_changes_only_slots (s s' : Statement) (bound : List Ident)
    (h : f.scope s = (bound, .ok s')) :
    s' = f.placement.adding.statement s ∧ f.erasing.statement s' = s := by
  obtain ⟨-, rfl⟩ := f.scope_eq_ok (congrArg Prod.snd h)
  exact ⟨rfl, f.erasing_adding s⟩

/-- `DELETE FROM t`, scoped to `t`, becomes `DELETE FROM t WHERE t.id = 1`, and erasing the
condition gives `DELETE FROM t` back. -/
theorem scope_changes_delete_where :
    let f : Filter := ⟨⟨"t", ["t"]⟩, ⟨⟨"t", none⟩, ⟨"id", none⟩, .integer 1⟩⟩
    let from_ : List TableWithJoins := [.mk (.table ⟨[⟨"t", none⟩]⟩ [] none none [] [] none none false) []]
    let s' : Statement :=
      .delete { from_, selection := some (.binary (.compound [⟨"t", none⟩, ⟨"id", none⟩]) .eq
        (Literal.integer 1).toExpr) }
    f.scope (.delete { from_ }) = ([⟨"t", none⟩], .ok s') ∧
      (s' = f.placement.adding.statement (.delete { from_ }) ∧
        f.erasing.statement s' = .delete { from_ }) := by
  intro f from_ s'
  have h : f.scope (.delete { from_ }) = ([⟨"t", none⟩], .ok s') := rfl
  exact ⟨h, scope_changes_only_slots f _ _ _ h⟩

/-! ## Two filters -/

/-- Whether a filter scopes a statement that holds the conditions of `π` depends only on the
joins of the statement. -/
theorem scope_adding_isOk (π : Placement) (s : Statement) :
    (f.scope (π.adding.statement s)).2.isOk = ((Joins.statement s).find? f.blocks).isNone := by
  cases h : (Joins.statement s).find? f.blocks with
  | none => rw [f.scope_adding_of_find?_eq_none π h]; rfl
  | some j => rw [f.scope_adding_of_find?_eq_some π h]; rfl

theorem scope_isOk (s : Statement) :
    (f.scope s).2.isOk = ((Joins.statement s).find? f.blocks).isNone := by
  have h := f.scope_adding_isOk .none s
  rwa [Placement.adding_none, SlotMap.statement_id] at h

/-- A filter scopes a statement scoped by another filter exactly when it scopes the statement
itself, and then binds the same references. -/
theorem scope_after_scope {fa : Filter} (fb : Filter) {s sa : Statement} {ba : List Ident}
    (h : fa.scope s = (ba, .ok sa)) :
    (fb.scope sa).2.isOk = (fb.scope s).2.isOk ∧
      ((fb.scope s).2.isOk → (fb.scope sa).1 = (fb.scope s).1) := by
  obtain ⟨-, rfl⟩ := fa.scope_eq_ok (congrArg Prod.snd h)
  refine ⟨by rw [fb.scope_adding_isOk, fb.scope_isOk], fun hb => ?_⟩
  rw [fb.scope_isOk, Option.isNone_iff_eq_none] at hb
  rw [fb.scope_adding_of_find?_eq_none _ hb, fb.scope_of_find?_eq_none hb]

/-- Scoping with one filter and then another succeeds exactly when each scopes the statement. -/
theorem scope_then_isOk (fa fb : Filter) (s : Statement) :
    ((fa.scope s).2 >>= fun sa => (fb.scope sa).2).isOk = ((fa.scope s).2.isOk && (fb.scope s).2.isOk) := by
  cases ha : (Joins.statement s).find? fa.blocks with
  | none =>
    rw [fa.scope_of_find?_eq_none ha]
    change (fb.scope (fa.placement.adding.statement s)).2.isOk = (true && _)
    rw [fb.scope_adding_isOk, fb.scope_isOk, Bool.true_and]
  | some j =>
    rw [fa.scope_of_find?_eq_some ha]
    rfl

/-- Scoping with one filter and then another adds the conditions of the first and then those of
the second to each slot. -/
theorem scope_then_eq_ok {fa fb : Filter} {s sab : Statement}
    (h : ((fa.scope s).2 >>= fun sa => (fb.scope sa).2) = .ok sab) :
    sab = (fa.placement ++ fb.placement).adding.statement s := by
  cases ha : (Joins.statement s).find? fa.blocks with
  | none =>
    rw [fa.scope_of_find?_eq_none ha] at h
    change (fb.scope (fa.placement.adding.statement s)).2 = .ok sab at h
    cases hb : (Joins.statement s).find? fb.blocks with
    | none =>
      rw [fb.scope_adding_of_find?_eq_none _ hb] at h
      cases h
      rfl
    | some j =>
      rw [fb.scope_adding_of_find?_eq_some _ hb] at h
      cases h
  | some j =>
    rw [fa.scope_of_find?_eq_some ha] at h
    cases h

end Filter

namespace Placement

/-- Two placements that put the same conditions in each slot, in any order. -/
def Perm (π π' : Placement) : Prop :=
  (∀ ts, (π.atWhere ts).Perm (π'.atWhere ts)) ∧ ∀ rel, (π.atOn rel).Perm (π'.atOn rel)

theorem perm_append_comm (π π' : Placement) : (π ++ π').Perm (π' ++ π) :=
  ⟨fun _ => List.perm_append_comm, fun _ => List.perm_append_comm⟩

end Placement

namespace Filter

/-- Two filters scope a statement in either order alike. A filter scopes a statement scoped by
the other exactly when it scopes the statement itself, binding the same references; scoping
with both succeeds, in either order, exactly when each scopes the statement; and the two
orders then give the statement with the same conditions added to each slot, in another
order. -/
theorem scope_comm (fa fb : Filter) (s : Statement) :
    (∀ ba sa, fa.scope s = (ba, .ok sa) →
      (fb.scope sa).2.isOk = (fb.scope s).2.isOk ∧
        ((fb.scope s).2.isOk → (fb.scope sa).1 = (fb.scope s).1)) ∧
    ((fa.scope s).2 >>= fun sa => (fb.scope sa).2).isOk =
      ((fa.scope s).2.isOk && (fb.scope s).2.isOk) ∧
    ((fb.scope s).2 >>= fun sb => (fa.scope sb).2).isOk =
      ((fa.scope s).2.isOk && (fb.scope s).2.isOk) ∧
    ∀ sab sba, ((fa.scope s).2 >>= fun sa => (fb.scope sa).2) = .ok sab →
      ((fb.scope s).2 >>= fun sb => (fa.scope sb).2) = .ok sba →
      ∃ π π' : Placement, π.Perm π' ∧ sab = π.adding.statement s ∧ sba = π'.adding.statement s := by
  refine ⟨fun _ _ h => scope_after_scope fb h, scope_then_isOk fa fb s, ?_, fun sab sba hab hba => ?_⟩
  · rw [scope_then_isOk, Bool.and_comm]
  · exact ⟨_, _, Placement.perm_append_comm fa.placement fb.placement, scope_then_eq_ok hab,
      scope_then_eq_ok hba⟩

end Filter

end SqlScope.Scope
