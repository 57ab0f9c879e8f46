import SqlScope.Scope.Filter

/-!
# Where a filter puts its conditions

A filter reaches the table references of a statement through its `FROM` lists, the
operands of joins, parenthesised join groups, derived tables, the branches of set
operations, parenthesised queries, common table expressions, the table and `FROM`
list of an `UPDATE`, the `FROM` and `USING` lists of a `DELETE`, and the queries of
a `WHERE` condition at any depth. Those references are `refs`. The projection,
`HAVING`, `ON` conditions, `ORDER BY`, assignments and `VALUES` rows are not searched.

Each reference gets its condition in one clause, its slot:

- a source hands the references it owes the enclosing clause to its owner
  (`exposed`): a filtered table itself, the leading source of a join group with what
  it hands on, and the sources joined to it by inner joins without `ON`;
- a join that has, or may have, an `ON` clause takes the references its right side
  hands on into that clause;
- a `FROM` list (and the table and lists of `UPDATE` and `DELETE`) hands the rest to
  the `WHERE` of its block.

`placed` is the statement with every slot's conditions added in that order, and
`sites` lists the references slot by slot in the order the filter visits the slots.

`Succeeds x a bs P` reads a scoping step as a function of its input: whenever it
succeeds it gives `a`, binds `bs`, and `P` holds. Each scoping function gets one such
statement, proved by structural recursion along the traversal, so that a case is the
composition of its children's statements.

## Main statements

- `Filter.statement_succeeds`: a successful scoping gives `placed` and binds `sites`,
  a permutation of `refs`.
- `Filter.scope_places_each_reference`: the same for `Filter.scope`, with the count of
  bound references.
-/

namespace SqlScope.Scope

open SqlScope.Sql

/-! ## Successful scoping steps -/

/-- A scoping step that, whenever it succeeds, ends with `a` after binding `bs` behind
the references bound before it, and succeeds only where `P` holds. -/
def Succeeds (x : Scoping α) (a : α) (bs : List Ident) (P : Prop) : Prop :=
  ∀ st st' y, x.run.run st = (.ok y, st') → y = a ∧ st' = st ++ bs ∧ P

namespace Succeeds

theorem pure (a : α) : Succeeds (Pure.pure a : Scoping α) a [] True := by
  intro st st' y h
  cases h
  simp

theorem bind {x : Scoping α} {g : α → Scoping β} {a : α} {b : β} {bs bs' : List Ident}
    {P Q : Prop} (hx : Succeeds x a bs P) (hg : Succeeds (g a) b bs' Q) :
    Succeeds (x >>= g) b (bs ++ bs') (P ∧ Q) := by
  intro st st' y h
  simp only [ExceptT.run_bind, StateT.run_bind] at h
  rcases hr : x.run.run st with ⟨_ | a', st₁⟩
  · rw [hr] at h
    cases h
  · rw [hr] at h
    obtain ⟨rfl, rfl, hP⟩ := hx st st₁ a' hr
    obtain ⟨rfl, rfl, hQ⟩ := hg _ _ _ h
    exact ⟨rfl, by simp, hP, hQ⟩

/-- A failing step never succeeds. -/
theorem throw (e : RewriteError) (a : α) (bs : List Ident) (P : Prop) :
    Succeeds (MonadExcept.throw e : Scoping α) a bs P := by
  intro st st' y h
  cases h

theorem of_eq {x : Scoping α} {a a' : α} {bs bs' : List Ident} {P P' : Prop}
    (ha : a = a') (hbs : bs = bs') (hP : P → P') (h : Succeeds x a bs P) :
    Succeeds x a' bs' P' := by
  intro st st' y hr
  obtain ⟨rfl, rfl, hp⟩ := h st st' y hr
  exact ⟨ha, by rw [hbs], hP hp⟩

theorem mono {x : Scoping α} {a : α} {bs : List Ident} {P P' : Prop} (hP : P → P')
    (h : Succeeds x a bs P) : Succeeds x a bs P' :=
  of_eq rfl rfl hP h

/-- A step followed by a continuation that returns at once. -/
theorem bind_pure {x : Scoping α} {g : α → Scoping β} {a : α} {b : β} {bs : List Ident} {P : Prop}
    (hx : Succeeds x a bs P) (hg : g a = Pure.pure b) : Succeeds (x >>= g) b bs P :=
  of_eq rfl (List.append_nil bs) And.left (hx.bind (hg ▸ Succeeds.pure b))

end Succeeds

namespace Filter

/-! ## The references a source hands to its owner -/

mutual

/-- The qualifiers of the filtered references a source with its joins hands to the
clause that owns it. -/
def exposedTwj (f : Filter) : TableWithJoins → List Ident
  | .mk rel js => f.exposedFactor rel ++ f.exposedJoins js

/-- What the joins of a source hand on: the right side of each inner join without
`ON`. -/
def exposedJoins (f : Filter) : List Join → List Ident
  | [] => []
  | .mk rel op :: rest =>
    (if joinSite op = .enclosing then f.exposedFactor rel else []) ++ f.exposedJoins rest

/-- What one source hands on: a filtered table its own qualifier, a join group what
its leading source and inner joins without `ON` hand on. -/
def exposedFactor (f : Filter) : TableFactor → List Ident
  | .table name _ _ aliasName .. =>
    if f.target.refersTo name (aliasName.map (·.name)) then (qualifier name aliasName).toList
    else []
  | .nested t _ => f.exposedTwj t
  | _ => []

end

/-- The `ON` clause of a join after the conditions for `qs` are added to it, in order. -/
def withOn (f : Filter) (op : JoinOperator) (qs : List Ident) : JoinOperator :=
  qs.foldl (fun op q => addJoinPredicate op (f.predicate q)) op

theorem bindTo_succeeds (f : Filter) (q : Ident) :
    Succeeds (f.bindTo q) (f.predicate q) [q] True := by
  intro st st' y h
  cases h
  simp

theorem bindEach_succeeds (f : Filter) (qs : List Ident) :
    Succeeds (f.bindEach qs) (qs.map f.predicate) qs True := by
  induction qs with
  | nil => exact Succeeds.pure _
  | cons q qs ih =>
    rw [bindEach, List.mapM_cons]
    refine Succeeds.of_eq rfl (by simp) (fun _ => trivial)
      ((f.bindTo_succeeds q).bind (ih.bind (Succeeds.pure _)))

theorem bindAllOn_succeeds (f : Filter) (op : JoinOperator) (qs : List Ident) :
    Succeeds (f.bindAllOn op qs) (f.withOn op qs) qs True := by
  induction qs generalizing op with
  | nil => exact Succeeds.pure _
  | cons q qs ih =>
    exact Succeeds.of_eq rfl rfl (fun _ => trivial) ((f.bindTo_succeeds q).bind (ih _))

/-- A join hands what its right side exposes to its `ON` clause or to its owner, by
where the join takes conditions, and fails where it can take them nowhere. -/
theorem join_succeeds_of (f : Filter) (rel : TableFactor) (op : JoinOperator) {rel' : TableFactor}
    {qs bs : List Ident} {P : Prop} (h : Succeeds (f.tableFactor rel) (rel', qs) bs P) :
    Succeeds (f.join (.mk rel op))
      (.mk rel' (if joinSite op = .on then f.withOn op qs else op),
        if joinSite op = .enclosing then qs else [])
      (bs ++ if joinSite op = .on then qs else [])
      (P ∧ (if joinSite op = .on then qs else []) ++ (if joinSite op = .enclosing then qs else []) = qs) := by
  rw [Filter.join]
  refine h.bind ?_
  dsimp only
  cases qs with
  | nil => exact Succeeds.of_eq (by simp [withOn]) (by simp) (fun _ => by simp) (Succeeds.pure _)
  | cons q qs =>
    simp only [List.isEmpty_cons, Bool.false_eq_true, if_false]
    cases hs : joinSite op with
    | on =>
      exact Succeeds.of_eq rfl (by simp) (fun _ => by simp)
        ((f.bindAllOn_succeeds op _).bind (Succeeds.pure _))
    | enclosing => exact Succeeds.of_eq rfl (by simp) (fun _ => by simp) (Succeeds.pure _)
    | unsupported => exact Succeeds.throw _ _ _ _

/-! ## The scoped statement -/

mutual

def placedQuery (f : Filter) : Query → Query
  | .mk r cs body o l ft k fc => .mk r (f.placedCtes cs) (f.placedSetExpr body) o l ft k fc

def placedCtes (f : Filter) : List Cte → List Cte
  | [] => []
  | .mk a m q :: rest => .mk a m (f.placedQuery q) :: f.placedCtes rest

def placedSetExpr (f : Filter) : SetExpr → SetExpr
  | .select s => .select (f.placedSelect s)
  | .query q => .query (f.placedQuery q)
  | .setOp op qu l r => .setOp op qu (f.placedSetExpr l) (f.placedSetExpr r)
  | other => other

/-- A block with its sources scoped and the conditions its `FROM` list owes added to
its `WHERE`. -/
def placedSelect (f : Filter) : Select → Select
  | .mk d t tf p from_ w g h nw ql wf i fc ds =>
    .mk d t tf p (f.placedFrom from_)
      (addPredicates (f.placedOptExpr w) ((f.exposedFrom from_).map f.predicate))
      g h nw ql wf i fc ds

def placedFrom (f : Filter) : List TableWithJoins → List TableWithJoins
  | [] => []
  | t :: rest => f.placedTwj t :: f.placedFrom rest

/-- What a `FROM` list hands to its `WHERE`. -/
def exposedFrom (f : Filter) : List TableWithJoins → List Ident
  | [] => []
  | t :: rest => f.exposedTwj t ++ f.exposedFrom rest

def placedTwj (f : Filter) : TableWithJoins → TableWithJoins
  | .mk rel js => .mk (f.placedFactor rel) (f.placedJoins js)

def placedJoins (f : Filter) : List Join → List Join
  | [] => []
  | j :: rest => f.placedJoin j :: f.placedJoins rest

/-- A join with its right side scoped and, when it has an `ON` slot, the conditions its
right side hands on added there. -/
def placedJoin (f : Filter) : Join → Join
  | .mk rel op =>
    .mk (f.placedFactor rel) (if joinSite op = .on then f.withOn op (f.exposedFactor rel) else op)

def placedFactor (f : Filter) : TableFactor → TableFactor
  | .derived l q a => .derived l (f.placedQuery q) a
  | .nested t a => .nested (f.placedTwj t) a
  | other => other

def placedExpr (f : Filter) : Expr → Expr
  | .binary l op r => .binary (f.placedExpr l) op (f.placedExpr r)
  | .unary op e => .unary op (f.placedExpr e)
  | .nested e => .nested (f.placedExpr e)
  | .isTest e t => .isTest (f.placedExpr e) t
  | .isDistinctFrom l n r => .isDistinctFrom (f.placedExpr l) n (f.placedExpr r)
  | .inList e n items => .inList (f.placedExpr e) n (f.placedExprs items)
  | .inSubquery e n q => .inSubquery (f.placedExpr e) n (f.placedQuery q)
  | .between e n lo hi => .between (f.placedExpr e) n (f.placedExpr lo) (f.placedExpr hi)
  | .like e n k any p esc => .like (f.placedExpr e) n k any (f.placedExpr p) esc
  | .call name args wg filter nt window =>
    .call name (f.placedFunctionArgs args) (f.placedOrderBys wg) (f.placedOptExpr filter) nt
      (f.placedOptWindow window)
  | .cast s e t => .cast s (f.placedExpr e) t
  | .exists n q => .exists n (f.placedQuery q)
  | .subquery q => .subquery (f.placedQuery q)
  | .quantified l op qu r => .quantified (f.placedExpr l) op qu (f.placedExpr r)
  | .case operand whens otherwise =>
    .case (f.placedOptExpr operand) (f.placedWhens whens) (f.placedOptExpr otherwise)
  | .array named elems => .array named (f.placedExprs elems)
  | .tuple elems => .tuple (f.placedExprs elems)
  | .interval e u => .interval (f.placedExpr e) u
  | .extract field comma e => .extract field comma (f.placedExpr e)
  | .collate e c => .collate (f.placedExpr e) c
  | .atTimeZone e z => .atTimeZone (f.placedExpr e) (f.placedExpr z)
  | .position e w => .position (f.placedExpr e) (f.placedExpr w)
  | .substring e s l comma short =>
    .substring (f.placedExpr e) (f.placedOptExpr s) (f.placedOptExpr l) comma short
  | .trim w what e chars => .trim w (f.placedOptExpr what) (f.placedExpr e) (f.placedExprs chars)
  | .ceilFloor c e s => .ceilFloor c (f.placedExpr e) s
  | .convert isTry e ty cs tf styles => .convert isTry (f.placedExpr e) ty cs tf (f.placedExprs styles)
  | .overlay e what start len =>
    .overlay (f.placedExpr e) (f.placedExpr what) (f.placedExpr start) (f.placedOptExpr len)
  | .memberOf v a => .memberOf (f.placedExpr v) (f.placedExpr a)
  | .fieldAccess root chain => .fieldAccess (f.placedExpr root) (f.placedAccesses chain)
  | other => other

def placedExprs (f : Filter) : List Expr → List Expr
  | [] => []
  | e :: rest => f.placedExpr e :: f.placedExprs rest

def placedOptExpr (f : Filter) : Option Expr → Option Expr
  | none => none
  | some e => some (f.placedExpr e)

def placedAccesses (f : Filter) : List Access → List Access
  | [] => []
  | .dot e :: rest => .dot (f.placedExpr e) :: f.placedAccesses rest
  | .index e :: rest => .index (f.placedExpr e) :: f.placedAccesses rest
  | .slice lo up st :: rest =>
    .slice (f.placedOptExpr lo) (f.placedOptExpr up) (f.placedOptExpr st) :: f.placedAccesses rest

def placedWhens (f : Filter) : List WhenBranch → List WhenBranch
  | [] => []
  | .mk c r :: rest => .mk (f.placedExpr c) (f.placedExpr r) :: f.placedWhens rest

def placedFunctionArgs (f : Filter) : FunctionArgs → FunctionArgs
  | .none => .none
  | .subquery q => .subquery (f.placedQuery q)
  | .list d args clauses => .list d (f.placedFunctionArgList args) (f.placedArgClauses clauses)

def placedArgClauses (f : Filter) : List ArgClause → List ArgClause
  | [] => []
  | .orderBy keys :: rest => .orderBy (f.placedOrderBys keys) :: f.placedArgClauses rest
  | .limit e :: rest => .limit (f.placedExpr e) :: f.placedArgClauses rest
  | .having max e :: rest => .having max (f.placedExpr e) :: f.placedArgClauses rest
  | .onOverflowTruncate filler withCount :: rest =>
    .onOverflowTruncate (f.placedOptExpr filler) withCount :: f.placedArgClauses rest
  | c :: rest => c :: f.placedArgClauses rest

def placedFunctionArgList (f : Filter) : List FunctionArg → List FunctionArg
  | [] => []
  | .unnamed e :: rest => .unnamed (f.placedExpr e) :: f.placedFunctionArgList rest
  | .named n op e :: rest => .named n op (f.placedExpr e) :: f.placedFunctionArgList rest

def placedOptWindow (f : Filter) : Option WindowSpec → Option WindowSpec
  | some (.spec n parts orderBy frame) =>
    some (.spec n (f.placedExprs parts) (f.placedOrderBys orderBy) (f.placedOptFrame frame))
  | other => other

def placedOptFrame (f : Filter) : Option WindowFrame → Option WindowFrame
  | none => none
  | some (.mk units start finish) =>
    some (.mk units (f.placedFrameBound start) (f.placedOptFrameBound finish))

def placedOptFrameBound (f : Filter) : Option FrameBound → Option FrameBound
  | none => none
  | some b => some (f.placedFrameBound b)

def placedFrameBound (f : Filter) : FrameBound → FrameBound
  | .currentRow => .currentRow
  | .preceding offset => .preceding (f.placedOptExpr offset)
  | .following offset => .following (f.placedOptExpr offset)

def placedOrderBys (f : Filter) : List OrderByExpr → List OrderByExpr
  | [] => []
  | .mk e asc nulls :: rest => .mk (f.placedExpr e) asc nulls :: f.placedOrderBys rest

end

/-! ## The references bound, slot by slot -/

mutual

/-- The references bound while scoping a query, in the order their slots are filled. -/
def sitesQuery (f : Filter) : Query → List Ident
  | .mk _ cs body .. => f.sitesCtes cs ++ f.sitesSetExpr body

def sitesCtes (f : Filter) : List Cte → List Ident
  | [] => []
  | .mk _ _ q :: rest => f.sitesQuery q ++ f.sitesCtes rest

def sitesSetExpr (f : Filter) : SetExpr → List Ident
  | .select s => f.sitesSelect s
  | .query q => f.sitesQuery q
  | .setOp _ _ l r => f.sitesSetExpr l ++ f.sitesSetExpr r
  | _ => []

def sitesSelect (f : Filter) : Select → List Ident
  | .mk _ _ _ _ from_ w .. => f.sitesFrom from_ ++ f.sitesOptExpr w

/-- Each source's own slots, then what it hands to the `WHERE`. -/
def sitesFrom (f : Filter) : List TableWithJoins → List Ident
  | [] => []
  | t :: rest => f.sitesTwj t ++ (f.exposedTwj t ++ f.sitesFrom rest)

def sitesTwj (f : Filter) : TableWithJoins → List Ident
  | .mk rel js => f.sitesFactor rel ++ f.sitesJoins js

def sitesJoins (f : Filter) : List Join → List Ident
  | [] => []
  | j :: rest => f.sitesJoin j ++ f.sitesJoins rest

/-- The right side's own slots, then the join's `ON` slot. -/
def sitesJoin (f : Filter) : Join → List Ident
  | .mk rel op => f.sitesFactor rel ++ (if joinSite op = .on then f.exposedFactor rel else [])

def sitesFactor (f : Filter) : TableFactor → List Ident
  | .derived _ q _ => f.sitesQuery q
  | .nested t _ => f.sitesTwj t
  | _ => []

def sitesExpr (f : Filter) : Expr → List Ident
  | .binary l _ r => f.sitesExpr l ++ f.sitesExpr r
  | .unary _ e | .nested e | .isTest e _ | .cast _ e _ | .interval e _ | .extract _ _ e
  | .collate e _ | .ceilFloor _ e _ => f.sitesExpr e
  | .isDistinctFrom l _ r | .quantified l _ _ r | .atTimeZone l r | .position l r
  | .memberOf l r => f.sitesExpr l ++ f.sitesExpr r
  | .inList e _ items => f.sitesExpr e ++ f.sitesExprs items
  | .inSubquery e _ q => f.sitesExpr e ++ f.sitesQuery q
  | .between e _ lo hi => f.sitesExpr e ++ (f.sitesExpr lo ++ f.sitesExpr hi)
  | .like e _ _ _ p _ => f.sitesExpr e ++ f.sitesExpr p
  | .call _ args wg filter _ window =>
    f.sitesFunctionArgs args ++ (f.sitesOptExpr filter ++ (f.sitesOptWindow window ++ f.sitesOrderBys wg))
  | .exists _ q | .subquery q => f.sitesQuery q
  | .case operand whens otherwise =>
    f.sitesOptExpr operand ++ (f.sitesWhens whens ++ f.sitesOptExpr otherwise)
  | .array _ elems | .tuple elems => f.sitesExprs elems
  | .substring e s l _ _ => f.sitesExpr e ++ (f.sitesOptExpr s ++ f.sitesOptExpr l)
  | .trim _ what e chars => f.sitesExpr e ++ (f.sitesOptExpr what ++ f.sitesExprs chars)
  | .convert _ e _ _ _ styles => f.sitesExpr e ++ f.sitesExprs styles
  | .overlay e what start len =>
    f.sitesExpr e ++ (f.sitesExpr what ++ (f.sitesExpr start ++ f.sitesOptExpr len))
  | .fieldAccess root chain => f.sitesExpr root ++ f.sitesAccesses chain
  | _ => []

def sitesExprs (f : Filter) : List Expr → List Ident
  | [] => []
  | e :: rest => f.sitesExpr e ++ f.sitesExprs rest

def sitesOptExpr (f : Filter) : Option Expr → List Ident
  | none => []
  | some e => f.sitesExpr e

def sitesAccesses (f : Filter) : List Access → List Ident
  | [] => []
  | .dot e :: rest | .index e :: rest => f.sitesExpr e ++ f.sitesAccesses rest
  | .slice lo up st :: rest =>
    f.sitesOptExpr lo ++ (f.sitesOptExpr up ++ (f.sitesOptExpr st ++ f.sitesAccesses rest))

def sitesWhens (f : Filter) : List WhenBranch → List Ident
  | [] => []
  | .mk c r :: rest => f.sitesExpr c ++ (f.sitesExpr r ++ f.sitesWhens rest)

def sitesFunctionArgs (f : Filter) : FunctionArgs → List Ident
  | .none => []
  | .subquery q => f.sitesQuery q
  | .list _ args clauses => f.sitesFunctionArgList args ++ f.sitesArgClauses clauses

def sitesArgClauses (f : Filter) : List ArgClause → List Ident
  | [] => []
  | .orderBy keys :: rest => f.sitesOrderBys keys ++ f.sitesArgClauses rest
  | .limit e :: rest | .having _ e :: rest => f.sitesExpr e ++ f.sitesArgClauses rest
  | .onOverflowTruncate filler _ :: rest => f.sitesOptExpr filler ++ f.sitesArgClauses rest
  | _ :: rest => f.sitesArgClauses rest

def sitesFunctionArgList (f : Filter) : List FunctionArg → List Ident
  | [] => []
  | .unnamed e :: rest | .named _ _ e :: rest => f.sitesExpr e ++ f.sitesFunctionArgList rest

def sitesOptWindow (f : Filter) : Option WindowSpec → List Ident
  | some (.spec _ parts orderBy frame) =>
    f.sitesExprs parts ++ (f.sitesOrderBys orderBy ++ f.sitesOptFrame frame)
  | _ => []

def sitesOptFrame (f : Filter) : Option WindowFrame → List Ident
  | none => []
  | some (.mk _ start finish) => f.sitesFrameBound start ++ f.sitesOptFrameBound finish

def sitesOptFrameBound (f : Filter) : Option FrameBound → List Ident
  | none => []
  | some b => f.sitesFrameBound b

def sitesFrameBound (f : Filter) : FrameBound → List Ident
  | .currentRow => []
  | .preceding offset | .following offset => f.sitesOptExpr offset

def sitesOrderBys (f : Filter) : List OrderByExpr → List Ident
  | [] => []
  | .mk e _ _ :: rest => f.sitesExpr e ++ f.sitesOrderBys rest

end

/-! ## The references in scope -/

mutual

/-- The qualifiers of the filtered table references in scope in a query. -/
def refsQuery (f : Filter) : Query → List Ident
  | .mk _ cs body .. => f.refsCtes cs ++ f.refsSetExpr body

def refsCtes (f : Filter) : List Cte → List Ident
  | [] => []
  | .mk _ _ q :: rest => f.refsQuery q ++ f.refsCtes rest

def refsSetExpr (f : Filter) : SetExpr → List Ident
  | .select s => f.refsSelect s
  | .query q => f.refsQuery q
  | .setOp _ _ l r => f.refsSetExpr l ++ f.refsSetExpr r
  | _ => []

def refsSelect (f : Filter) : Select → List Ident
  | .mk _ _ _ _ from_ w .. => f.refsFrom from_ ++ f.refsOptExpr w

def refsFrom (f : Filter) : List TableWithJoins → List Ident
  | [] => []
  | t :: rest => f.refsTwj t ++ f.refsFrom rest

def refsTwj (f : Filter) : TableWithJoins → List Ident
  | .mk rel js => f.refsFactor rel ++ f.refsJoins js

def refsJoins (f : Filter) : List Join → List Ident
  | [] => []
  | .mk rel _ :: rest => f.refsFactor rel ++ f.refsJoins rest

def refsFactor (f : Filter) : TableFactor → List Ident
  | .table name _ _ aliasName .. =>
    if f.target.refersTo name (aliasName.map (·.name)) then (qualifier name aliasName).toList
    else []
  | .derived _ q _ => f.refsQuery q
  | .nested t _ => f.refsTwj t
  | _ => []

def refsExpr (f : Filter) : Expr → List Ident
  | .binary l _ r => f.refsExpr l ++ f.refsExpr r
  | .unary _ e | .nested e | .isTest e _ | .cast _ e _ | .interval e _ | .extract _ _ e
  | .collate e _ | .ceilFloor _ e _ => f.refsExpr e
  | .isDistinctFrom l _ r | .quantified l _ _ r | .atTimeZone l r | .position l r
  | .memberOf l r => f.refsExpr l ++ f.refsExpr r
  | .inList e _ items => f.refsExpr e ++ f.refsExprs items
  | .inSubquery e _ q => f.refsExpr e ++ f.refsQuery q
  | .between e _ lo hi => f.refsExpr e ++ (f.refsExpr lo ++ f.refsExpr hi)
  | .like e _ _ _ p _ => f.refsExpr e ++ f.refsExpr p
  | .call _ args wg filter _ window =>
    f.refsFunctionArgs args ++ (f.refsOptExpr filter ++ (f.refsOptWindow window ++ f.refsOrderBys wg))
  | .exists _ q | .subquery q => f.refsQuery q
  | .case operand whens otherwise =>
    f.refsOptExpr operand ++ (f.refsWhens whens ++ f.refsOptExpr otherwise)
  | .array _ elems | .tuple elems => f.refsExprs elems
  | .substring e s l _ _ => f.refsExpr e ++ (f.refsOptExpr s ++ f.refsOptExpr l)
  | .trim _ what e chars => f.refsExpr e ++ (f.refsOptExpr what ++ f.refsExprs chars)
  | .convert _ e _ _ _ styles => f.refsExpr e ++ f.refsExprs styles
  | .overlay e what start len =>
    f.refsExpr e ++ (f.refsExpr what ++ (f.refsExpr start ++ f.refsOptExpr len))
  | .fieldAccess root chain => f.refsExpr root ++ f.refsAccesses chain
  | _ => []

def refsExprs (f : Filter) : List Expr → List Ident
  | [] => []
  | e :: rest => f.refsExpr e ++ f.refsExprs rest

def refsOptExpr (f : Filter) : Option Expr → List Ident
  | none => []
  | some e => f.refsExpr e

def refsAccesses (f : Filter) : List Access → List Ident
  | [] => []
  | .dot e :: rest | .index e :: rest => f.refsExpr e ++ f.refsAccesses rest
  | .slice lo up st :: rest =>
    f.refsOptExpr lo ++ (f.refsOptExpr up ++ (f.refsOptExpr st ++ f.refsAccesses rest))

def refsWhens (f : Filter) : List WhenBranch → List Ident
  | [] => []
  | .mk c r :: rest => f.refsExpr c ++ (f.refsExpr r ++ f.refsWhens rest)

def refsFunctionArgs (f : Filter) : FunctionArgs → List Ident
  | .none => []
  | .subquery q => f.refsQuery q
  | .list _ args clauses => f.refsFunctionArgList args ++ f.refsArgClauses clauses

def refsArgClauses (f : Filter) : List ArgClause → List Ident
  | [] => []
  | .orderBy keys :: rest => f.refsOrderBys keys ++ f.refsArgClauses rest
  | .limit e :: rest | .having _ e :: rest => f.refsExpr e ++ f.refsArgClauses rest
  | .onOverflowTruncate filler _ :: rest => f.refsOptExpr filler ++ f.refsArgClauses rest
  | _ :: rest => f.refsArgClauses rest

def refsFunctionArgList (f : Filter) : List FunctionArg → List Ident
  | [] => []
  | .unnamed e :: rest | .named _ _ e :: rest => f.refsExpr e ++ f.refsFunctionArgList rest

def refsOptWindow (f : Filter) : Option WindowSpec → List Ident
  | some (.spec _ parts orderBy frame) =>
    f.refsExprs parts ++ (f.refsOrderBys orderBy ++ f.refsOptFrame frame)
  | _ => []

def refsOptFrame (f : Filter) : Option WindowFrame → List Ident
  | none => []
  | some (.mk _ start finish) => f.refsFrameBound start ++ f.refsOptFrameBound finish

def refsOptFrameBound (f : Filter) : Option FrameBound → List Ident
  | none => []
  | some b => f.refsFrameBound b

def refsFrameBound (f : Filter) : FrameBound → List Ident
  | .currentRow => []
  | .preceding offset | .following offset => f.refsOptExpr offset

def refsOrderBys (f : Filter) : List OrderByExpr → List Ident
  | [] => []
  | .mk e _ _ :: rest => f.refsExpr e ++ f.refsOrderBys rest

end

/-! ## A successful scoping places the conditions -/

/-- A source's slots and what it hands on, followed by the slots of what comes
after it. -/
theorem perm_slots {a e s c r : List Ident} (h₁ : (a ++ e).Perm c) (h₂ : s.Perm r) :
    (a ++ (e ++ s)).Perm (c ++ r) := by
  simpa only [List.append_assoc] using h₁.append h₂

/-- What two parts bind and hand on, taken together. -/
theorem perm_append_swap {a b c d e g : List Ident} (h₁ : (a ++ b).Perm c)
    (h₂ : (d ++ e).Perm g) : ((a ++ d) ++ (b ++ e)).Perm (c ++ g) := by
  have h : ((a ++ d) ++ (b ++ e)).Perm ((a ++ b) ++ (d ++ e)) := by
    simp only [List.append_assoc]
    exact (List.perm_append_comm_assoc d b e).append_left a
  exact h.trans (h₁.append h₂)

mutual

theorem query_succeeds (f : Filter) : (q : Query) →
    Succeeds (f.query q) (f.placedQuery q) (f.sitesQuery q) ((f.sitesQuery q).Perm (f.refsQuery q))
  | .mk _ cs body .. =>
    Succeeds.mono (fun ⟨h1, h2⟩ => h1.append h2)
      ((f.ctes_succeeds cs).bind ((f.setExpr_succeeds body).bind_pure rfl))

theorem ctes_succeeds (f : Filter) : (cs : List Cte) →
    Succeeds (f.ctes cs) (f.placedCtes cs) (f.sitesCtes cs) ((f.sitesCtes cs).Perm (f.refsCtes cs))
  | [] => Succeeds.mono (fun _ => List.Perm.refl _) (Succeeds.pure _)
  | .mk _ _ q :: rest =>
    Succeeds.mono (fun ⟨h1, h2⟩ => h1.append h2)
      ((f.query_succeeds q).bind ((f.ctes_succeeds rest).bind_pure rfl))

theorem setExpr_succeeds (f : Filter) : (e : SetExpr) →
    Succeeds (f.setExpr e) (f.placedSetExpr e) (f.sitesSetExpr e)
      ((f.sitesSetExpr e).Perm (f.refsSetExpr e))
  | .select s => (f.select_succeeds s).bind_pure rfl
  | .query q => (f.query_succeeds q).bind_pure rfl
  | .setOp _ _ l r =>
    Succeeds.mono (fun ⟨h1, h2⟩ => h1.append h2)
      ((f.setExpr_succeeds l).bind ((f.setExpr_succeeds r).bind_pure rfl))
  | .values .. | .table _ | .dml _ => Succeeds.mono (fun _ => List.Perm.refl _) (Succeeds.pure _)

theorem select_succeeds (f : Filter) : (s : Select) →
    Succeeds (f.select s) (f.placedSelect s) (f.sitesSelect s) ((f.sitesSelect s).Perm (f.refsSelect s))
  | .mk _ _ _ _ from_ w .. =>
    Succeeds.mono (fun ⟨h1, h2⟩ => h1.append h2)
      ((f.fromList_succeeds from_).bind ((f.optExpr_succeeds w).bind_pure rfl))

/-- A `FROM` list binds each source's own slots, then what the source hands to the
`WHERE`, source by source. -/
theorem fromList_succeeds (f : Filter) : (ts : List TableWithJoins) →
    Succeeds (f.fromList ts) (f.placedFrom ts, (f.exposedFrom ts).map f.predicate) (f.sitesFrom ts)
      ((f.sitesFrom ts).Perm (f.refsFrom ts))
  | [] => Succeeds.mono (fun _ => List.Perm.refl _) (Succeeds.pure _)
  | t :: rest =>
    Succeeds.mono (fun ⟨h1, _, h2⟩ => perm_slots h1 h2)
      ((f.tableWithJoins_succeeds t).bind ((f.bindEach_succeeds _).bind
        ((f.fromList_succeeds rest).bind_pure (by simp only [exposedFrom, List.map_append]; rfl))))

theorem tableWithJoins_succeeds (f : Filter) : (t : TableWithJoins) →
    Succeeds (f.tableWithJoins t) (f.placedTwj t, f.exposedTwj t) (f.sitesTwj t)
      ((f.sitesTwj t ++ f.exposedTwj t).Perm (f.refsTwj t))
  | .mk rel js =>
    Succeeds.mono (fun ⟨h1, h2⟩ => perm_append_swap h1 h2)
      ((f.tableFactor_succeeds rel).bind ((f.joins_succeeds js).bind_pure rfl))

/-- The joins of a source: each right side's own slots, then the join's `ON` slot. -/
theorem joins_succeeds (f : Filter) : (js : List Join) →
    Succeeds (f.joins js) (f.placedJoins js, f.exposedJoins js) (f.sitesJoins js)
      ((f.sitesJoins js ++ f.exposedJoins js).Perm (f.refsJoins js))
  | [] => Succeeds.mono (fun _ => List.Perm.refl _) (Succeeds.pure _)
  | .mk rel op :: rest =>
    -- the join's right side exposes what goes to its ON clause and what it hands on
    Succeeds.mono
      (fun ⟨⟨h1, hq⟩, h2⟩ => perm_append_swap (by rw [sitesJoin, List.append_assoc, hq]; exact h1) h2)
      ((f.join_succeeds_of rel op (f.tableFactor_succeeds rel)).bind
        ((f.joins_succeeds rest).bind_pure rfl))

theorem tableFactor_succeeds (f : Filter) : (t : TableFactor) →
    Succeeds (f.tableFactor t) (f.placedFactor t, f.exposedFactor t) (f.sitesFactor t)
      ((f.sitesFactor t ++ f.exposedFactor t).Perm (f.refsFactor t))
  | .table name ps args aliasName ih hints v sample ord => by
    by_cases hm : f.target.refersTo name (aliasName.map (·.name)) = true
    · simp only [Filter.tableFactor, exposedFactor, sitesFactor, refsFactor, hm]
      exact Succeeds.mono (fun _ => List.Perm.refl _) (Succeeds.pure _)
    · simp only [Filter.tableFactor, exposedFactor, sitesFactor, refsFactor, hm]
      exact Succeeds.mono (fun _ => List.Perm.refl _) (Succeeds.pure _)
  | .derived _ q _ =>
    Succeeds.mono (fun h => show (f.sitesQuery q ++ []).Perm _ by rwa [List.append_nil])
      ((f.query_succeeds q).bind_pure rfl)
  | .nested t _ => (f.tableWithJoins_succeeds t).bind_pure rfl
  | .unnest .. | .function .. | .tableFunction .. | .columnsFunction .. | .pivot .. | .unpivot .. =>
    Succeeds.mono (fun _ => List.Perm.refl _) (Succeeds.pure _)

theorem expr_succeeds (f : Filter) : (e : Expr) →
    Succeeds (f.expr e) (f.placedExpr e) (f.sitesExpr e)
      ((f.sitesExpr e).Perm (f.refsExpr e))
  | .unary _ e | .nested e | .isTest e _ | .cast _ e _ | .interval e _ | .extract _ _ e
  | .collate e _ | .ceilFloor _ e _ => (f.expr_succeeds e).bind_pure rfl
  | .binary l _ r | .isDistinctFrom l _ r | .quantified l _ _ r | .atTimeZone l r | .position l r
  | .memberOf l r | .like l _ _ _ r _ =>
    Succeeds.mono (fun ⟨h1, h2⟩ => h1.append h2)
      ((f.expr_succeeds l).bind ((f.expr_succeeds r).bind_pure rfl))
  | .inList e _ items | .convert _ e _ _ _ items =>
    Succeeds.mono (fun ⟨h1, h2⟩ => h1.append h2)
      ((f.expr_succeeds e).bind ((f.exprs_succeeds items).bind_pure rfl))
  | .inSubquery e _ q =>
    Succeeds.mono (fun ⟨h1, h2⟩ => h1.append h2)
      ((f.expr_succeeds e).bind ((f.query_succeeds q).bind_pure rfl))
  | .between e _ lo hi =>
    Succeeds.mono (fun ⟨h1, h2, h3⟩ => h1.append (h2.append h3))
      ((f.expr_succeeds e).bind ((f.expr_succeeds lo).bind ((f.expr_succeeds hi).bind_pure rfl)))
  | .call _ args wg filter _ window =>
    Succeeds.mono (fun ⟨h1, h2, h3, h4⟩ => h1.append (h2.append (h3.append h4)))
      ((f.functionArgs_succeeds args).bind ((f.optExpr_succeeds filter).bind
        ((f.optWindow_succeeds window).bind ((f.orderBys_succeeds wg).bind_pure rfl))))
  | .exists _ q | .subquery q => (f.query_succeeds q).bind_pure rfl
  | .case operand whens otherwise =>
    Succeeds.mono (fun ⟨h1, h2, h3⟩ => h1.append (h2.append h3))
      ((f.optExpr_succeeds operand).bind ((f.whens_succeeds whens).bind
        ((f.optExpr_succeeds otherwise).bind_pure rfl)))
  | .array _ elems | .tuple elems => (f.exprs_succeeds elems).bind_pure rfl
  | .substring e s l _ _ =>
    Succeeds.mono (fun ⟨h1, h2, h3⟩ => h1.append (h2.append h3))
      ((f.expr_succeeds e).bind ((f.optExpr_succeeds s).bind ((f.optExpr_succeeds l).bind_pure rfl)))
  | .trim _ what e chars =>
    Succeeds.mono (fun ⟨h1, h2, h3⟩ => h1.append (h2.append h3))
      ((f.expr_succeeds e).bind ((f.optExpr_succeeds what).bind ((f.exprs_succeeds chars).bind_pure rfl)))
  | .overlay e what start len =>
    Succeeds.mono (fun ⟨h1, h2, h3, h4⟩ => h1.append (h2.append (h3.append h4)))
      ((f.expr_succeeds e).bind ((f.expr_succeeds what).bind
        ((f.expr_succeeds start).bind ((f.optExpr_succeeds len).bind_pure rfl))))
  | .fieldAccess root chain =>
    Succeeds.mono (fun ⟨h1, h2⟩ => h1.append h2)
      ((f.expr_succeeds root).bind ((f.accesses_succeeds chain).bind_pure rfl))
  | .ident _ | .compound _ | .wildcard | .qualifiedWildcard _ | .value _ | .typedString ..
  | .introduced .. | .matchAgainst .. | .groupingSets _ | .cube _ | .rollup _ =>
    Succeeds.mono (fun _ => List.Perm.refl _) (Succeeds.pure _)

theorem exprs_succeeds (f : Filter) : (es : List Expr) →
    Succeeds (f.exprs es) (f.placedExprs es) (f.sitesExprs es)
      ((f.sitesExprs es).Perm (f.refsExprs es))
  | [] => Succeeds.mono (fun _ => List.Perm.refl _) (Succeeds.pure _)
  | e :: rest =>
    Succeeds.mono (fun ⟨h1, h2⟩ => h1.append h2)
      ((f.expr_succeeds e).bind ((f.exprs_succeeds rest).bind_pure rfl))

theorem optExpr_succeeds (f : Filter) : (e : Option Expr) →
    Succeeds (f.optExpr e) (f.placedOptExpr e) (f.sitesOptExpr e)
      ((f.sitesOptExpr e).Perm (f.refsOptExpr e))
  | none => Succeeds.mono (fun _ => List.Perm.refl _) (Succeeds.pure _)
  | some e => (f.expr_succeeds e).bind_pure rfl

theorem accesses_succeeds (f : Filter) : (as : List Access) →
    Succeeds (f.accesses as) (f.placedAccesses as) (f.sitesAccesses as)
      ((f.sitesAccesses as).Perm (f.refsAccesses as))
  | [] => Succeeds.mono (fun _ => List.Perm.refl _) (Succeeds.pure _)
  | .dot e :: rest | .index e :: rest =>
    Succeeds.mono (fun ⟨h1, _, h2⟩ => h1.append h2)
      ((f.expr_succeeds e).bind ((Succeeds.pure _).bind ((f.accesses_succeeds rest).bind_pure rfl)))
  | .slice lo up st :: rest =>
    Succeeds.mono (fun ⟨h1, h2, h3, _, h4⟩ => h1.append (h2.append (h3.append h4)))
      ((f.optExpr_succeeds lo).bind ((f.optExpr_succeeds up).bind ((f.optExpr_succeeds st).bind
        ((Succeeds.pure _).bind ((f.accesses_succeeds rest).bind_pure rfl)))))

theorem whens_succeeds (f : Filter) : (ws : List WhenBranch) →
    Succeeds (f.whens ws) (f.placedWhens ws) (f.sitesWhens ws)
      ((f.sitesWhens ws).Perm (f.refsWhens ws))
  | [] => Succeeds.mono (fun _ => List.Perm.refl _) (Succeeds.pure _)
  | .mk c r :: rest =>
    Succeeds.mono (fun ⟨h1, h2, h3⟩ => h1.append (h2.append h3))
      ((f.expr_succeeds c).bind ((f.expr_succeeds r).bind ((f.whens_succeeds rest).bind_pure rfl)))

theorem functionArgs_succeeds (f : Filter) : (a : FunctionArgs) →
    Succeeds (f.functionArgs a) (f.placedFunctionArgs a) (f.sitesFunctionArgs a)
      ((f.sitesFunctionArgs a).Perm (f.refsFunctionArgs a))
  | .none => Succeeds.mono (fun _ => List.Perm.refl _) (Succeeds.pure _)
  | .subquery q => (f.query_succeeds q).bind_pure rfl
  | .list _ args clauses =>
    Succeeds.mono (fun ⟨h1, h2⟩ => h1.append h2)
      ((f.functionArgList_succeeds args).bind ((f.argClauses_succeeds clauses).bind_pure rfl))

theorem argClauses_succeeds (f : Filter) : (cs : List ArgClause) →
    Succeeds (f.argClauses cs) (f.placedArgClauses cs) (f.sitesArgClauses cs)
      ((f.sitesArgClauses cs).Perm (f.refsArgClauses cs))
  | [] => Succeeds.mono (fun _ => List.Perm.refl _) (Succeeds.pure _)
  | .orderBy keys :: rest =>
    Succeeds.mono (fun ⟨h1, _, h2⟩ => h1.append h2)
      ((f.orderBys_succeeds keys).bind ((Succeeds.pure _).bind ((f.argClauses_succeeds rest).bind_pure rfl)))
  | .limit e :: rest | .having _ e :: rest =>
    Succeeds.mono (fun ⟨h1, _, h2⟩ => h1.append h2)
      ((f.expr_succeeds e).bind ((Succeeds.pure _).bind ((f.argClauses_succeeds rest).bind_pure rfl)))
  | .onOverflowTruncate filler _ :: rest =>
    Succeeds.mono (fun ⟨h1, _, h2⟩ => h1.append h2)
      ((f.optExpr_succeeds filler).bind ((Succeeds.pure _).bind ((f.argClauses_succeeds rest).bind_pure rfl)))
  | .nullTreatment _ :: rest | .separator _ :: rest | .onOverflowError :: rest | .jsonNull _ :: rest
  | .returning _ :: rest =>
    Succeeds.mono (fun ⟨_, h⟩ => h) ((Succeeds.pure _).bind ((f.argClauses_succeeds rest).bind_pure rfl))

theorem functionArgList_succeeds (f : Filter) : (as : List FunctionArg) →
    Succeeds (f.functionArgList as) (f.placedFunctionArgList as) (f.sitesFunctionArgList as)
      ((f.sitesFunctionArgList as).Perm (f.refsFunctionArgList as))
  | [] => Succeeds.mono (fun _ => List.Perm.refl _) (Succeeds.pure _)
  | .unnamed e :: rest | .named _ _ e :: rest =>
    Succeeds.mono (fun ⟨h1, _, h2⟩ => h1.append h2)
      ((f.expr_succeeds e).bind ((Succeeds.pure _).bind ((f.functionArgList_succeeds rest).bind_pure rfl)))

theorem optWindow_succeeds (f : Filter) : (w : Option WindowSpec) →
    Succeeds (f.optWindow w) (f.placedOptWindow w) (f.sitesOptWindow w)
      ((f.sitesOptWindow w).Perm (f.refsOptWindow w))
  | none | some (.named _) => Succeeds.mono (fun _ => List.Perm.refl _) (Succeeds.pure _)
  | some (.spec _ parts orderBy frame) =>
    Succeeds.mono (fun ⟨h1, h2, h3⟩ => h1.append (h2.append h3))
      ((f.exprs_succeeds parts).bind ((f.orderBys_succeeds orderBy).bind ((f.optFrame_succeeds frame).bind_pure rfl)))

theorem optFrame_succeeds (f : Filter) : (w : Option WindowFrame) →
    Succeeds (f.optFrame w) (f.placedOptFrame w) (f.sitesOptFrame w)
      ((f.sitesOptFrame w).Perm (f.refsOptFrame w))
  | none => Succeeds.mono (fun _ => List.Perm.refl _) (Succeeds.pure _)
  | some (.mk _ start finish) =>
    Succeeds.mono (fun ⟨h1, h2⟩ => h1.append h2)
      ((f.frameBound_succeeds start).bind ((f.optFrameBound_succeeds finish).bind_pure rfl))

theorem optFrameBound_succeeds (f : Filter) : (b : Option FrameBound) →
    Succeeds (f.optFrameBound b) (f.placedOptFrameBound b) (f.sitesOptFrameBound b)
      ((f.sitesOptFrameBound b).Perm (f.refsOptFrameBound b))
  | none => Succeeds.mono (fun _ => List.Perm.refl _) (Succeeds.pure _)
  | some b => (f.frameBound_succeeds b).bind_pure rfl

theorem frameBound_succeeds (f : Filter) : (b : FrameBound) →
    Succeeds (f.frameBound b) (f.placedFrameBound b) (f.sitesFrameBound b)
      ((f.sitesFrameBound b).Perm (f.refsFrameBound b))
  | .currentRow => Succeeds.mono (fun _ => List.Perm.refl _) (Succeeds.pure _)
  | .preceding offset => (f.optExpr_succeeds offset).bind_pure rfl
  | .following offset => (f.optExpr_succeeds offset).bind_pure rfl

theorem orderBys_succeeds (f : Filter) : (os : List OrderByExpr) →
    Succeeds (f.orderBys os) (f.placedOrderBys os) (f.sitesOrderBys os)
      ((f.sitesOrderBys os).Perm (f.refsOrderBys os))
  | [] => Succeeds.mono (fun _ => List.Perm.refl _) (Succeeds.pure _)
  | .mk e _ _ :: rest =>
    Succeeds.mono (fun ⟨h1, h2⟩ => h1.append h2)
      ((f.expr_succeeds e).bind ((f.orderBys_succeeds rest).bind_pure rfl))

end

/-! ## Statements -/

/-- The `FROM` list of an `UPDATE`, wherever it is written. -/
def updateFromTables : Option UpdateFrom → List TableWithJoins
  | some (.beforeSet ts) | some (.afterSet ts) => ts
  | none => []

def placedUpdateFrom (f : Filter) : Option UpdateFrom → Option UpdateFrom
  | some (.beforeSet ts) => some (.beforeSet (f.placedFrom ts))
  | some (.afterSet ts) => some (.afterSet (f.placedFrom ts))
  | none => none

/-- An `UPDATE` with its table and `FROM` list scoped and what they hand on added to
its `WHERE`, the updated table's first. -/
def placedUpdate (f : Filter) (u : Update) : Update :=
  { u with
    table := f.placedTwj u.table
    from_ := f.placedUpdateFrom u.from_
    selection := addPredicates (f.placedOptExpr u.selection)
      ((f.exposedTwj u.table).map f.predicate ++
        (f.exposedFrom (updateFromTables u.from_)).map f.predicate) }

/-- A `DELETE` with its `FROM` and `USING` lists scoped and what they hand on added to
its `WHERE`. -/
def placedDelete (f : Filter) (d : Delete) : Delete :=
  { d with
    from_ := f.placedFrom d.from_
    usingTables := d.usingTables.map f.placedFrom
    selection := addPredicates (f.placedOptExpr d.selection)
      ((f.exposedFrom d.from_).map f.predicate ++
        (f.exposedFrom (d.usingTables.getD [])).map f.predicate) }

/-- The statement with the condition in every slot of a filtered reference. -/
def placedStatement (f : Filter) : Statement → Statement
  | .query q => .query (f.placedQuery q)
  | .update u => .update (f.placedUpdate u)
  | .delete d => .delete (f.placedDelete d)
  | other => other

def sitesUpdate (f : Filter) (u : Update) : List Ident :=
  f.sitesTwj u.table ++
    (f.exposedTwj u.table ++ (f.sitesFrom (updateFromTables u.from_) ++ f.sitesOptExpr u.selection))

def sitesDelete (f : Filter) (d : Delete) : List Ident :=
  f.sitesFrom d.from_ ++ (f.sitesFrom (d.usingTables.getD []) ++ f.sitesOptExpr d.selection)

/-- The references bound while scoping a statement, in the order their slots are
filled. -/
def sitesStatement (f : Filter) : Statement → List Ident
  | .query q => f.sitesQuery q
  | .update u => f.sitesUpdate u
  | .delete d => f.sitesDelete d
  | _ => []

def refsUpdate (f : Filter) (u : Update) : List Ident :=
  f.refsTwj u.table ++ (f.refsFrom (updateFromTables u.from_) ++ f.refsOptExpr u.selection)

def refsDelete (f : Filter) (d : Delete) : List Ident :=
  f.refsFrom d.from_ ++ (f.refsFrom (d.usingTables.getD []) ++ f.refsOptExpr d.selection)

/-- The qualifiers of the filtered table references in scope in a statement. -/
def refsStatement (f : Filter) : Statement → List Ident
  | .query q => f.refsQuery q
  | .update u => f.refsUpdate u
  | .delete d => f.refsDelete d
  | _ => []

theorem update_succeeds (f : Filter) (u : Update) :
    Succeeds (f.update u) (f.placedUpdate u) (f.sitesUpdate u)
      ((f.sitesUpdate u).Perm (f.refsUpdate u)) := by
  obtain ⟨_, table, _, from_, selection, _, _⟩ := u
  -- the `FROM` list is scoped the same way before and after `SET`
  rcases from_ with _ | ⟨ts⟩ | ⟨ts⟩
  · exact Succeeds.mono (fun ⟨h1, _, _, h2⟩ => perm_slots h1 h2)
      ((f.tableWithJoins_succeeds table).bind ((f.bindEach_succeeds _).bind
        ((Succeeds.pure _).bind ((f.optExpr_succeeds selection).bind_pure rfl))))
  · exact Succeeds.mono (fun ⟨h1, _, h2, _, h3⟩ => perm_slots h1 (h2.append h3))
      ((f.tableWithJoins_succeeds table).bind ((f.bindEach_succeeds _).bind ((f.fromList_succeeds ts).bind
        ((Succeeds.pure _).bind ((f.optExpr_succeeds selection).bind_pure rfl)))))
  · exact Succeeds.mono (fun ⟨h1, _, h2, _, h3⟩ => perm_slots h1 (h2.append h3))
      ((f.tableWithJoins_succeeds table).bind ((f.bindEach_succeeds _).bind ((f.fromList_succeeds ts).bind
        ((Succeeds.pure _).bind ((f.optExpr_succeeds selection).bind_pure rfl)))))

theorem delete_succeeds (f : Filter) (d : Delete) :
    Succeeds (f.delete d) (f.placedDelete d) (f.sitesDelete d)
      ((f.sitesDelete d).Perm (f.refsDelete d)) := by
  obtain ⟨_, _, from_, usingTables, selection, _, _, _⟩ := d
  rcases usingTables with _ | ts
  · exact Succeeds.mono (fun ⟨h1, _, h2⟩ => h1.append h2)
      ((f.fromList_succeeds from_).bind ((Succeeds.pure _).bind
        ((f.optExpr_succeeds selection).bind_pure rfl)))
  · exact Succeeds.mono (fun ⟨h1, h2, _, h3⟩ => h1.append (h2.append h3))
      ((f.fromList_succeeds from_).bind ((f.fromList_succeeds ts).bind
        ((Succeeds.pure _).bind ((f.optExpr_succeeds selection).bind_pure rfl))))

theorem statement_succeeds (f : Filter) : (s : Statement) →
    Succeeds (f.statement s) (f.placedStatement s) (f.sitesStatement s)
      ((f.sitesStatement s).Perm (f.refsStatement s))
  | .query q => (f.query_succeeds q).bind_pure rfl
  | .update u => (f.update_succeeds u).bind_pure rfl
  | .delete d => (f.delete_succeeds d).bind_pure rfl
  | .insert _ | .other _ => Succeeds.mono (fun _ => List.Perm.refl _) (Succeeds.pure _)

/-- What a successful scoping reports is its run from no bound references. -/
theorem run_of_scope {f : Filter} {s s' : Statement} {bound : List Ident}
    (h : f.scope s = (bound, .ok s')) : (f.statement s).run.run [] = (.ok s', bound) := by
  rcases hr : (f.statement s).run.run [] with ⟨r, b⟩
  simp only [scope, hr, Id.run, Prod.mk.injEq] at h
  obtain ⟨rfl, rfl⟩ := h
  rfl

/-- A successful scoping gives the statement with the condition in the slot of every
filtered reference in scope, binds the references slot by slot, and binds each
filtered reference in scope exactly once: the count it reports is the number of
those references. -/
theorem scope_places_each_reference (f : Filter) (s s' : Statement) (bound : List Ident)
    (h : f.scope s = (bound, .ok s')) :
    s' = f.placedStatement s ∧ bound = f.sitesStatement s ∧ bound.Perm (f.refsStatement s) ∧
      bound.length = (f.refsStatement s).length := by
  obtain ⟨hs, hb, hp⟩ := f.statement_succeeds s [] bound s' (run_of_scope h)
  rw [List.nil_append] at hb
  subst hb
  exact ⟨hs, rfl, hp, hp.length_eq⟩

/-- `DELETE FROM t`, scoped to `t`, becomes `DELETE FROM t WHERE t.id = 1`. -/
theorem scope_places_delete_from :
    let f : Filter := ⟨⟨"t", ["t"]⟩, ⟨⟨"t", none⟩, ⟨"id", none⟩, .integer 1⟩⟩
    let from_ : List TableWithJoins := [.mk (.table ⟨[⟨"t", none⟩]⟩ [] none none [] [] none none false) []]
    let s' : Statement :=
      .delete { from_, selection := some (.binary (.compound [⟨"t", none⟩, ⟨"id", none⟩]) .eq
        (Literal.integer 1).toExpr) }
    f.scope (.delete { from_ }) = ([⟨"t", none⟩], .ok s') ∧
      (s' = f.placedStatement (.delete { from_ }) ∧ [⟨"t", none⟩] = f.sitesStatement (.delete { from_ }) ∧
        List.Perm [⟨"t", none⟩] (f.refsStatement (.delete { from_ })) ∧
        [(⟨"t", none⟩ : Ident)].length = (f.refsStatement (.delete { from_ })).length) := by
  intro f from_ s'
  have h : f.scope (.delete { from_ }) = ([⟨"t", none⟩], .ok s') := rfl
  exact ⟨h, scope_places_each_reference f _ _ _ h⟩

end Filter

end SqlScope.Scope
