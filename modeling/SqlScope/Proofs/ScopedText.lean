import Mathlib
import SqlScope.Proofs.Outcome

/-!
# What scoping does to the printed statement

A filter puts one condition in a slot for each table reference it binds. The printed
statement shows every slot it fills: a `WHERE` or `ON` that gets conditions prints longer
by at least one character for each of them, and nothing else of the statement prints
shorter. So the printed statement grows by at least the number of references bound. And a
filter that binds no reference fills no slot: the statement stays exactly as it was.

## Main statements

- `Filter.statement_adding_of_sites_nil`: a filter that binds nothing keeps the statement.
- `Filter.statement_render_grows`: the printed statement grows by at least the number of
  references bound.

The printer is `Sql.Printer`, the model of the printer of the SQL library that scoping takes
as given. Of it this module uses that a statement prints as its parts do, in order, with the
parts' texts in it, and that a condition joined to a slot prints with `AND` around it: the
length bounds hold of scoping followed by that printer.

The printer splits its inner `match`es into equations by case, so a part of the statement
is unfolded with `unfold` (or `rw` at one occurrence inside a list), which keeps the parts
that do not change as they are on both sides.
-/

namespace SqlScope.Scope

open SqlScope.Sql

namespace Filter

variable (f : Filter)

/-! ## A filter that binds nothing changes nothing -/

mutual

theorem query_adding_of_sites_nil : (q : Query) → f.sitesQuery q = [] →
    f.placement.adding.query q = q
  | .mk _ cs body .., h => by
    rw [sitesQuery, List.append_eq_nil_iff] at h
    rw [SlotMap.query, ctes_adding_of_sites_nil cs h.1, setExpr_adding_of_sites_nil body h.2]

theorem ctes_adding_of_sites_nil : (cs : List Cte) → f.sitesCtes cs = [] →
    f.placement.adding.ctes cs = cs
  | [], _ => rfl
  | .mk _ _ q :: rest, h => by
    rw [sitesCtes, List.append_eq_nil_iff] at h
    rw [SlotMap.ctes, query_adding_of_sites_nil q h.1, ctes_adding_of_sites_nil rest h.2]

theorem setExpr_adding_of_sites_nil : (e : SetExpr) → f.sitesSetExpr e = [] →
    f.placement.adding.setExpr e = e
  | .select s, h => by rw [SlotMap.setExpr, select_adding_of_sites_nil s h]
  | .query q, h => by rw [SlotMap.setExpr, query_adding_of_sites_nil q h]
  | .setOp _ _ l r, h => by
    rw [sitesSetExpr, List.append_eq_nil_iff] at h
    rw [SlotMap.setExpr, setExpr_adding_of_sites_nil l h.1, setExpr_adding_of_sites_nil r h.2]
  | .values .., _ | .table _, _ | .dml _, _ => rfl

theorem select_adding_of_sites_nil : (s : Select) → f.sitesSelect s = [] →
    f.placement.adding.select s = s
  | .mk _ _ _ _ from_ w .., h => by
    rw [sitesSelect, List.append_eq_nil_iff] at h
    obtain ⟨hfrom, hexposed⟩ := fromList_adding_of_sites_nil from_ h.1
    -- the `WHERE` gets one condition for each reference the sources hand on: none
    have hnone : f.placement.atWhere from_ = [] := by
      rw [show f.placement.atWhere from_ = (f.exposedFrom from_).map f.condition.withTable from rfl,
        hexposed, List.map_nil]
    rw [SlotMap.select, hfrom, Placement.adding_atWhere, optExpr_adding_of_sites_nil w h.2, hnone]
    rfl

theorem fromList_adding_of_sites_nil : (ts : List TableWithJoins) → f.sitesFrom ts = [] →
    f.placement.adding.fromList ts = ts ∧ f.exposedFrom ts = []
  | [], _ => ⟨rfl, rfl⟩
  | t :: rest, h => by
    simp only [sitesFrom, List.append_eq_nil_iff] at h
    obtain ⟨hrest, hexposed⟩ := fromList_adding_of_sites_nil rest h.2.2
    rw [SlotMap.fromList, twj_adding_of_sites_nil t h.1, hrest, exposedFrom, h.2.1, hexposed]
    exact ⟨rfl, rfl⟩

theorem twj_adding_of_sites_nil : (t : TableWithJoins) → f.sitesTwj t = [] →
    f.placement.adding.twj t = t
  | .mk rel js, h => by
    rw [sitesTwj, List.append_eq_nil_iff] at h
    rw [SlotMap.twj, factor_adding_of_sites_nil rel h.1, joins_adding_of_sites_nil js h.2]

theorem joins_adding_of_sites_nil : (js : List Join) → f.sitesJoins js = [] →
    f.placement.adding.joins js = js
  | [], _ => rfl
  | j :: rest, h => by
    rw [sitesJoins, List.append_eq_nil_iff] at h
    rw [SlotMap.joins, join_adding_of_sites_nil j h.1, joins_adding_of_sites_nil rest h.2]

theorem join_adding_of_sites_nil : (j : Join) → f.sitesJoin j = [] →
    f.placement.adding.join j = j
  | .mk rel op, h => by
    rw [sitesJoin, List.append_eq_nil_iff] at h
    rw [SlotMap.join, factor_adding_of_sites_nil rel h.1, Placement.adding_atOn]
    -- the `ON` slot, if the join has one, gets a condition for each reference: none
    by_cases hs : joinSite op = .on
    · simp only [hs, if_true, placement] at h ⊢
      simp only [h.2, List.map_nil]
      exact congrArg _ (JoinOperator.mapConstraint_id op)
    · simp only [hs, if_false]
      exact congrArg _ (JoinOperator.mapConstraint_id op)

theorem factor_adding_of_sites_nil : (t : TableFactor) → f.sitesFactor t = [] →
    f.placement.adding.factor t = t
  | .derived _ q _, h => by rw [SlotMap.factor, query_adding_of_sites_nil q h]
  | .nested t _, h => by rw [SlotMap.factor, twj_adding_of_sites_nil t h]
  | .table .., _ | .unnest .., _ | .function .., _ | .tableFunction .., _
  | .columnsFunction .., _ | .pivot .., _ | .unpivot .., _ => rfl

theorem expr_adding_of_sites_nil : (e : Expr) → f.sitesExpr e = [] →
    f.placement.adding.expr e = e
  | .unary _ e, h | .nested e, h | .isTest e _, h | .cast _ e _, h | .interval e _, h
  | .extract _ _ e, h | .collate e _, h | .ceilFloor _ e _, h => by
    rw [SlotMap.expr, expr_adding_of_sites_nil e h]
  | .binary l _ r, h | .isDistinctFrom l _ r, h | .quantified l _ _ r, h | .atTimeZone l r, h
  | .position l r, h | .memberOf l r, h | .like l _ _ _ r _, h => by
    rw [sitesExpr, List.append_eq_nil_iff] at h
    rw [SlotMap.expr, expr_adding_of_sites_nil l h.1, expr_adding_of_sites_nil r h.2]
  | .inList e _ items, h | .convert _ e _ _ _ items, h => by
    rw [sitesExpr, List.append_eq_nil_iff] at h
    rw [SlotMap.expr, expr_adding_of_sites_nil e h.1, exprs_adding_of_sites_nil items h.2]
  | .inSubquery e _ q, h => by
    rw [sitesExpr, List.append_eq_nil_iff] at h
    rw [SlotMap.expr, expr_adding_of_sites_nil e h.1, query_adding_of_sites_nil q h.2]
  | .between e _ lo hi, h => by
    simp only [sitesExpr, List.append_eq_nil_iff] at h
    rw [SlotMap.expr, expr_adding_of_sites_nil e h.1, expr_adding_of_sites_nil lo h.2.1,
      expr_adding_of_sites_nil hi h.2.2]
  | .call _ args wg filter _ window, h => by
    simp only [sitesExpr, List.append_eq_nil_iff] at h
    rw [SlotMap.expr, functionArgs_adding_of_sites_nil args h.1, orderBys_adding_of_sites_nil wg h.2.2.2,
      optExpr_adding_of_sites_nil filter h.2.1, optWindow_adding_of_sites_nil window h.2.2.1]
  | .exists _ q, h | .subquery q, h => by rw [SlotMap.expr, query_adding_of_sites_nil q h]
  | .case operand whens otherwise, h => by
    simp only [sitesExpr, List.append_eq_nil_iff] at h
    rw [SlotMap.expr, optExpr_adding_of_sites_nil operand h.1, whens_adding_of_sites_nil whens h.2.1,
      optExpr_adding_of_sites_nil otherwise h.2.2]
  | .array _ elems, h | .tuple elems, h => by rw [SlotMap.expr, exprs_adding_of_sites_nil elems h]
  | .substring e s l _ _, h => by
    simp only [sitesExpr, List.append_eq_nil_iff] at h
    rw [SlotMap.expr, expr_adding_of_sites_nil e h.1, optExpr_adding_of_sites_nil s h.2.1,
      optExpr_adding_of_sites_nil l h.2.2]
  | .trim _ what e chars, h => by
    simp only [sitesExpr, List.append_eq_nil_iff] at h
    rw [SlotMap.expr, expr_adding_of_sites_nil e h.1, optExpr_adding_of_sites_nil what h.2.1,
      exprs_adding_of_sites_nil chars h.2.2]
  | .overlay e what start len, h => by
    simp only [sitesExpr, List.append_eq_nil_iff] at h
    rw [SlotMap.expr, expr_adding_of_sites_nil e h.1, expr_adding_of_sites_nil what h.2.1,
      expr_adding_of_sites_nil start h.2.2.1, optExpr_adding_of_sites_nil len h.2.2.2]
  | .fieldAccess root chain, h => by
    rw [sitesExpr, List.append_eq_nil_iff] at h
    rw [SlotMap.expr, expr_adding_of_sites_nil root h.1, accesses_adding_of_sites_nil chain h.2]
  | .ident _, _ | .compound _, _ | .wildcard, _ | .qualifiedWildcard _, _ | .value _, _
  | .typedString .., _ | .introduced .., _ | .matchAgainst .., _ | .groupingSets _, _
  | .cube _, _ | .rollup _, _ => rfl

theorem exprs_adding_of_sites_nil : (es : List Expr) → f.sitesExprs es = [] →
    f.placement.adding.exprs es = es
  | [], _ => rfl
  | e :: rest, h => by
    rw [sitesExprs, List.append_eq_nil_iff] at h
    rw [SlotMap.exprs, expr_adding_of_sites_nil e h.1, exprs_adding_of_sites_nil rest h.2]

theorem optExpr_adding_of_sites_nil : (e : Option Expr) → f.sitesOptExpr e = [] →
    f.placement.adding.optExpr e = e
  | none, _ => rfl
  | some e, h => by rw [SlotMap.optExpr, expr_adding_of_sites_nil e h]

theorem accesses_adding_of_sites_nil : (as : List Access) → f.sitesAccesses as = [] →
    f.placement.adding.accesses as = as
  | [], _ => rfl
  | .dot e :: rest, h | .index e :: rest, h => by
    rw [sitesAccesses, List.append_eq_nil_iff] at h
    rw [SlotMap.accesses, expr_adding_of_sites_nil e h.1, accesses_adding_of_sites_nil rest h.2]
  | .slice lo up st :: rest, h => by
    simp only [sitesAccesses, List.append_eq_nil_iff] at h
    rw [SlotMap.accesses, optExpr_adding_of_sites_nil lo h.1, optExpr_adding_of_sites_nil up h.2.1,
      optExpr_adding_of_sites_nil st h.2.2.1, accesses_adding_of_sites_nil rest h.2.2.2]

theorem whens_adding_of_sites_nil : (ws : List WhenBranch) → f.sitesWhens ws = [] →
    f.placement.adding.whens ws = ws
  | [], _ => rfl
  | .mk c r :: rest, h => by
    simp only [sitesWhens, List.append_eq_nil_iff] at h
    rw [SlotMap.whens, expr_adding_of_sites_nil c h.1, expr_adding_of_sites_nil r h.2.1,
      whens_adding_of_sites_nil rest h.2.2]

theorem functionArgs_adding_of_sites_nil : (a : FunctionArgs) → f.sitesFunctionArgs a = [] →
    f.placement.adding.functionArgs a = a
  | .none, _ => rfl
  | .subquery q, h => by rw [SlotMap.functionArgs, query_adding_of_sites_nil q h]
  | .list _ args clauses, h => by
    rw [sitesFunctionArgs, List.append_eq_nil_iff] at h
    rw [SlotMap.functionArgs, functionArgList_adding_of_sites_nil args h.1,
      argClauses_adding_of_sites_nil clauses h.2]

theorem argClauses_adding_of_sites_nil : (cs : List ArgClause) → f.sitesArgClauses cs = [] →
    f.placement.adding.argClauses cs = cs
  | [], _ => rfl
  | .orderBy keys :: rest, h => by
    rw [sitesArgClauses, List.append_eq_nil_iff] at h
    rw [SlotMap.argClauses, orderBys_adding_of_sites_nil keys h.1,
      argClauses_adding_of_sites_nil rest h.2]
  | .limit e :: rest, h | .having _ e :: rest, h => by
    rw [sitesArgClauses, List.append_eq_nil_iff] at h
    rw [SlotMap.argClauses, expr_adding_of_sites_nil e h.1, argClauses_adding_of_sites_nil rest h.2]
  | .onOverflowTruncate filler _ :: rest, h => by
    rw [sitesArgClauses, List.append_eq_nil_iff] at h
    rw [SlotMap.argClauses, optExpr_adding_of_sites_nil filler h.1,
      argClauses_adding_of_sites_nil rest h.2]
  | .nullTreatment _ :: rest, h | .separator _ :: rest, h | .onOverflowError :: rest, h
  | .jsonNull _ :: rest, h | .returning _ :: rest, h => by
    simp only [sitesArgClauses] at h
    simp only [SlotMap.argClauses, argClauses_adding_of_sites_nil rest h]

theorem functionArgList_adding_of_sites_nil : (as : List FunctionArg) →
    f.sitesFunctionArgList as = [] → f.placement.adding.functionArgList as = as
  | [], _ => rfl
  | .unnamed e :: rest, h | .named _ _ e :: rest, h => by
    rw [sitesFunctionArgList, List.append_eq_nil_iff] at h
    rw [SlotMap.functionArgList, expr_adding_of_sites_nil e h.1,
      functionArgList_adding_of_sites_nil rest h.2]

theorem optWindow_adding_of_sites_nil : (w : Option WindowSpec) → f.sitesOptWindow w = [] →
    f.placement.adding.optWindow w = w
  | some (.spec _ parts orderBy frame), h => by
    simp only [sitesOptWindow, List.append_eq_nil_iff] at h
    rw [SlotMap.optWindow, exprs_adding_of_sites_nil parts h.1, orderBys_adding_of_sites_nil orderBy h.2.1,
      optFrame_adding_of_sites_nil frame h.2.2]
  | some (.named _), _ | none, _ => rfl

theorem optFrame_adding_of_sites_nil : (w : Option WindowFrame) → f.sitesOptFrame w = [] →
    f.placement.adding.optFrame w = w
  | none, _ => rfl
  | some (.mk _ start finish), h => by
    rw [sitesOptFrame, List.append_eq_nil_iff] at h
    rw [SlotMap.optFrame, frameBound_adding_of_sites_nil start h.1,
      optFrameBound_adding_of_sites_nil finish h.2]

theorem optFrameBound_adding_of_sites_nil : (b : Option FrameBound) →
    f.sitesOptFrameBound b = [] → f.placement.adding.optFrameBound b = b
  | none, _ => rfl
  | some b, h => by rw [SlotMap.optFrameBound, frameBound_adding_of_sites_nil b h]

theorem frameBound_adding_of_sites_nil : (b : FrameBound) → f.sitesFrameBound b = [] →
    f.placement.adding.frameBound b = b
  | .currentRow, _ => rfl
  | .preceding offset, h | .following offset, h => by
    rw [SlotMap.frameBound, optExpr_adding_of_sites_nil offset h]

theorem orderBys_adding_of_sites_nil : (os : List OrderByExpr) → f.sitesOrderBys os = [] →
    f.placement.adding.orderBys os = os
  | [], _ => rfl
  | .mk e _ _ :: rest, h => by
    rw [sitesOrderBys, List.append_eq_nil_iff] at h
    rw [SlotMap.orderBys, expr_adding_of_sites_nil e h.1, orderBys_adding_of_sites_nil rest h.2]

end

theorem update_adding_of_sites_nil (u : Update) (h : f.sitesUpdate u = []) :
    f.placement.adding.update u = u := by
  simp only [sitesUpdate, List.append_eq_nil_iff] at h
  obtain ⟨htable, hexposed, hfrom, hw⟩ := h
  obtain ⟨hts, hexposedFrom⟩ := fromList_adding_of_sites_nil f (updateFromTables u.from_) hfrom
  have hupdateFrom : f.placement.adding.updateFrom u.from_ = u.from_ := by
    rcases hu : u.from_ with _ | ⟨ts⟩ | ⟨ts⟩ <;> rw [hu] at hts
    · rfl
    · exact congrArg (some ∘ UpdateFrom.beforeSet) hts
    · exact congrArg (some ∘ UpdateFrom.afterSet) hts
  -- the updated table and the `FROM` list hand on no reference to the `WHERE`
  have hnone : f.placement.atWhere (u.table :: updateFromTables u.from_) = [] := by
    rw [show f.placement.atWhere (u.table :: updateFromTables u.from_) =
      (f.exposedFrom (u.table :: updateFromTables u.from_)).map f.condition.withTable from rfl,
      exposedFrom, hexposed, hexposedFrom]
    rfl
  rw [SlotMap.update, twj_adding_of_sites_nil f u.table htable, hupdateFrom, Placement.adding_atWhere,
    optExpr_adding_of_sites_nil f u.selection hw, hnone]
  rfl

theorem delete_adding_of_sites_nil (d : Delete) (h : f.sitesDelete d = []) :
    f.placement.adding.delete d = d := by
  simp only [sitesDelete, List.append_eq_nil_iff] at h
  obtain ⟨hfrom, husing, hw⟩ := h
  obtain ⟨hts, hexposedFrom⟩ := fromList_adding_of_sites_nil f d.from_ hfrom
  obtain ⟨hus, hexposedUsing⟩ := fromList_adding_of_sites_nil f (d.usingTables.getD []) husing
  have husingTables : d.usingTables.map f.placement.adding.fromList = d.usingTables := by
    rcases hd : d.usingTables with _ | ts
    · rfl
    · rw [hd] at hus
      exact congrArg some hus
  have hnone : f.placement.atWhere (d.from_ ++ d.usingTables.getD []) = [] := by
    rw [show f.placement.atWhere (d.from_ ++ d.usingTables.getD []) =
      (f.exposedFrom (d.from_ ++ d.usingTables.getD [])).map f.condition.withTable from rfl,
      exposedFrom_append, hexposedFrom, hexposedUsing]
    rfl
  rw [SlotMap.delete, hts, husingTables, Placement.adding_atWhere,
    optExpr_adding_of_sites_nil f d.selection hw, hnone]
  rfl

/-- A filter that binds no reference of a statement leaves it exactly as it was. -/
theorem statement_adding_of_sites_nil (s : Statement) (h : f.sitesStatement s = []) :
    f.placement.adding.statement s = s := by
  cases s with
  | query q => rw [SlotMap.statement, query_adding_of_sites_nil f q h]
  | update u => rw [SlotMap.statement, update_adding_of_sites_nil f u h]
  | delete d => rw [SlotMap.statement, delete_adding_of_sites_nil f d h]
  | insert _ | other _ => rfl

end Filter

/-! ## Printed lengths -/

theorem length_intercalate (sep : String) : (xs : List String) →
    (sep.intercalate xs).length = (xs.map String.length).sum + (xs.length - 1) * sep.length
  | [] => by simp [String.intercalate_nil]
  | [x] => by simp [String.intercalate_singleton]
  | x :: y :: ys => by
    rw [String.intercalate_cons_cons, String.length_append, String.length_append,
      length_intercalate sep (y :: ys)]
    simp only [List.map_cons, List.sum_cons, List.length_cons, Nat.add_sub_cancel, Nat.add_mul,
      Nat.one_mul]
    omega

/-- Items printed with a separator between each two. -/
theorem length_intercalate_map (sep : String) (g : α → String) (xs : List α) :
    (sep.intercalate (xs.map g)).length =
      (xs.map fun x => (g x).length).sum + (xs.length - 1) * sep.length := by
  rw [length_intercalate, List.map_map, List.length_map]
  rfl

theorem length_commaList_map (g : α → String) (xs : List α) :
    (commaList (xs.map g)).length = (xs.map fun x => (g x).length).sum + (xs.length - 1) * 2 := by
  rw [commaList, length_intercalate_map]
  rfl

theorem length_join_map (g : α → String) (xs : List α) :
    (String.join (xs.map g)).length = (xs.map fun x => (g x).length).sum := by
  rw [String.length_join, List.map_map]
  rfl

namespace SlotMap

variable (m : SlotMap)

@[simp] theorem length_ctes (cs : List Cte) : (m.ctes cs).length = cs.length := by
  induction cs with
  | nil => rfl
  | cons c rest ih =>
    cases c
    rw [ctes, List.length_cons, ih, List.length_cons]

@[simp] theorem length_fromList (ts : List TableWithJoins) : (m.fromList ts).length = ts.length := by
  induction ts with
  | nil => rfl
  | cons t rest ih => rw [fromList, List.length_cons, ih, List.length_cons]

@[simp] theorem length_exprs (es : List Expr) : (m.exprs es).length = es.length := by
  induction es with
  | nil => rfl
  | cons e rest ih => rw [exprs, List.length_cons, ih, List.length_cons]

@[simp] theorem length_orderBys (os : List OrderByExpr) : (m.orderBys os).length = os.length := by
  induction os with
  | nil => rfl
  | cons o rest ih =>
    cases o
    rw [orderBys, List.length_cons, ih, List.length_cons]

@[simp] theorem length_functionArgList (as : List FunctionArg) :
    (m.functionArgList as).length = as.length := by
  induction as with
  | nil => rfl
  | cons a rest ih => cases a <;> rw [functionArgList, List.length_cons, ih, List.length_cons]

@[simp] theorem length_argClauses (cs : List ArgClause) : (m.argClauses cs).length = cs.length := by
  induction cs with
  | nil => rfl
  | cons c rest ih => cases c <;> simp only [argClauses, List.length_cons, ih]

@[simp] theorem isEmpty_ctes (cs : List Cte) : (m.ctes cs).isEmpty = cs.isEmpty := by
  cases cs <;> simp [← List.length_eq_zero_iff]

@[simp] theorem isEmpty_fromList (ts : List TableWithJoins) :
    (m.fromList ts).isEmpty = ts.isEmpty := by
  cases ts <;> simp [← List.length_eq_zero_iff]

@[simp] theorem isEmpty_exprs (es : List Expr) : (m.exprs es).isEmpty = es.isEmpty := by
  cases es <;> simp [← List.length_eq_zero_iff]

@[simp] theorem isEmpty_orderBys (os : List OrderByExpr) : (m.orderBys os).isEmpty = os.isEmpty := by
  cases os <;> simp [← List.length_eq_zero_iff]

@[simp] theorem isEmpty_functionArgList (as : List FunctionArg) :
    (m.functionArgList as).isEmpty = as.isEmpty := by
  cases as <;> simp [← List.length_eq_zero_iff]

@[simp] theorem isEmpty_argClauses (cs : List ArgClause) :
    (m.argClauses cs).isEmpty = cs.isEmpty := by
  cases cs <;> simp [← List.length_eq_zero_iff]

/-- Only a subquery maps to a subquery. -/
theorem eq_subquery_of_expr {e : Expr} {q' : Query} (h : m.expr e = .subquery q') :
    ∃ q, e = .subquery q := by
  cases e <;> simp [expr] at h ⊢

end SlotMap

/-! ## Filling a slot lengthens it -/

/-- The printed length of a predicate slot, one more than its predicate's to count the
keyword before it; an empty slot prints nothing. -/
def slotLength : Option Expr → Nat
  | some e => e.render.length + 1
  | none => 0

theorem slotLength_addPredicate (w : Option Expr) (p : Expr) :
    slotLength w + 1 ≤ slotLength (addPredicate w p) := by
  cases w with
  | none => simp [slotLength, addPredicate, conjoin]
  | some e =>
    -- `(e) AND p` holds `e` and more
    have hparen : "(".length = 1 := rfl
    simp only [slotLength, addPredicate, conjoin, Expr.render, String.length_append]
    omega

theorem slotLength_addPredicates (w : Option Expr) (ps : List Expr) :
    slotLength w + ps.length ≤ slotLength (Filter.addPredicates w ps) := by
  induction ps generalizing w with
  | nil => simp [Filter.addPredicates]
  | cons p ps ih =>
    have hstep := slotLength_addPredicate w p
    have hrest := ih (addPredicate w p)
    simp only [Filter.addPredicates, List.foldl_cons, List.length_cons] at hrest ⊢
    omega

/-- An `ON` slot, filled or created, prints longer by at least one character for each
predicate added. -/
theorem onClause_render_grows (v : Option Expr) (ps : List Expr) :
    (onClause v).render.length + ps.length ≤ (addOnPredicates (onClause v) ps).render.length := by
  have hslot := slotLength_addPredicates v ps
  have hon : " ON ".length = 4 := rfl
  rw [addOnPredicates_onClause]
  generalize Filter.addPredicates v ps = v' at hslot
  rcases v with _ | e <;> rcases v' with _ | e' <;>
    simp only [onClause, slotLength, JoinConstraint.render, String.length_append,
      String.length_empty] at hslot ⊢ <;>
    omega

/-- A join prints its right side in one place: a longer right side prints a longer join. -/
theorem Join.length_render_mk (rel rel' : TableFactor) (op : JoinOperator) :
    (Join.mk rel op).render.length + rel'.render.length =
      (Join.mk rel' op).render.length + rel.render.length := by
  rcases op with ⟨kind, c⟩ | _ | _ | ⟨mc, c⟩
  · -- `NATURAL` is printed from the constraint, which stays
    cases c <;> simp only [Join.render, String.length_append] <;> omega
  all_goals
    simp only [Join.render, String.length_append]
    omega

/-- A join that takes conditions in its `ON` prints longer by at least one character for
each predicate added there. -/
theorem Join.length_render_addOnPredicates {op : JoinOperator} (hs : joinSite op = .on)
    (rel rel' : TableFactor) (ps : List Expr) :
    (Join.mk rel op).render.length + rel'.render.length + ps.length ≤
      (Join.mk rel' (op.mapConstraint (addOnPredicates · ps))).render.length +
        rel.render.length := by
  rcases op with ⟨kind, c⟩ | _ | _ | ⟨mc, c⟩
  · -- an `ON` clause, or no constraint on a join that keeps unmatched rows
    have hc : ∃ v, c = onClause v := by
      rcases (joinSite_join_eq_on kind c).mp hs with ⟨e, rfl⟩ | ⟨_, rfl⟩
      · exact ⟨some e, rfl⟩
      · exact ⟨none, rfl⟩
    obtain ⟨v, rfl⟩ := hc
    have hgrow := onClause_render_grows v ps
    simp only [JoinOperator.mapConstraint, addOnPredicates_onClause] at hgrow ⊢
    generalize Filter.addPredicates v ps = v' at hgrow ⊢
    -- neither constraint is `NATURAL`
    rcases v with _ | e <;> rcases v' with _ | e' <;>
      simp only [onClause, Join.render, String.length_append] at hgrow ⊢ <;>
      omega
  · simp [joinSite] at hs
  · simp [joinSite] at hs
  · have hc : ∃ v, c = onClause v := by
      rcases (joinSite_asOf_eq_on mc c).mp hs with ⟨e, rfl⟩ | rfl
      · exact ⟨some e, rfl⟩
      · exact ⟨none, rfl⟩
    obtain ⟨v, rfl⟩ := hc
    have hgrow := onClause_render_grows v ps
    simp only [JoinOperator.mapConstraint, Join.render, String.length_append]
    omega

namespace Filter

variable (f : Filter)

@[simp] theorem placement_atWhere (ts : List TableWithJoins) :
    f.placement.atWhere ts = (f.exposedFrom ts).map f.condition.withTable := rfl

@[simp] theorem placement_atOn (rel : TableFactor) :
    f.placement.atOn rel = (f.exposedFactor rel).map f.condition.withTable := rfl

/-! ## Filling slots lengthens the printed statement

Each statement of the family says that the filter's slots in a part of the statement print
at least one character for each reference bound there. Lists are stated by the sum of
their printed lengths, as the printer joins them; a `FROM` list hands on what it exposes
to the `WHERE` it feeds, so the list itself grows by the references of its own slots. -/

mutual

theorem query_render_grows : (q : Query) →
    q.render.length + (f.sitesQuery q).length ≤ (f.placement.adding.query q).render.length
  | .mk r cs body o l ft k fc => by
    have hcs := ctes_render_grows cs
    have hbody := setExpr_render_grows body
    unfold Query.render
    simp only [SlotMap.query, sitesQuery, SlotMap.isEmpty_ctes, List.length_append,
      String.length_append]
    by_cases hnil : cs = []
    · subst hnil
      simp only [SlotMap.ctes, sitesCtes, List.length_nil] at hcs ⊢
      omega
    · simp only [List.isEmpty_eq_false_iff.mpr hnil, Bool.false_eq_true, ↓reduceIte,
        String.length_append, length_commaList_map, SlotMap.length_ctes]
      omega

theorem ctes_render_grows : (cs : List Cte) →
    (cs.map fun c => c.render.length).sum + (f.sitesCtes cs).length ≤
      ((f.placement.adding.ctes cs).map fun c => c.render.length).sum
  | [] => by simp [SlotMap.ctes, sitesCtes]
  | .mk a mat q :: rest => by
    have hq := query_render_grows q
    have hrest := ctes_render_grows rest
    simp only [SlotMap.ctes, sitesCtes, List.map_cons, List.sum_cons,
      List.length_append]
    rw [Cte.render.eq_def, Cte.render.eq_def]
    simp only [String.length_append]
    omega

theorem setExpr_render_grows : (e : SetExpr) →
    e.render.length + (f.sitesSetExpr e).length ≤ (f.placement.adding.setExpr e).render.length
  | .select s => by
    have hs := select_render_grows s
    unfold SetExpr.render
    simpa only [SlotMap.setExpr, sitesSetExpr] using hs
  | .query q => by
    have hq := query_render_grows q
    unfold SetExpr.render
    simp only [SlotMap.setExpr, sitesSetExpr, String.length_append]
    omega
  | .setOp op qu l r => by
    have hl := setExpr_render_grows l
    have hr := setExpr_render_grows r
    unfold SetExpr.render
    simp only [SlotMap.setExpr, sitesSetExpr, List.length_append,
      String.length_append]
    omega
  | .values .. | .table _ | .dml _ => by simp [SlotMap.setExpr, sitesSetExpr]

theorem select_render_grows : (s : Select) →
    s.render.length + (f.sitesSelect s).length ≤ (f.placement.adding.select s).render.length
  | .mk d t tf p from_ w g h nw ql wf i fc ds => by
    have hfrom := fromList_render_grows from_
    have hw := optExpr_render_grows w
    have hslot := slotLength_addPredicates (f.placement.adding.optExpr w)
      ((f.placement.atWhere from_).map Condition.toExpr)
    have hwhere : " WHERE ".length = 7 := rfl
    unfold Select.render
    simp only [SlotMap.select, Placement.adding_atWhere, sitesSelect,
      SlotMap.isEmpty_fromList, List.length_append, String.length_append]
    generalize Filter.addPredicates (f.placement.adding.optExpr w) _ = w' at hslot ⊢
    simp only [placement_atWhere, List.length_map] at hslot
    -- the `FROM` list, then the `WHERE`, which gets what the list hands on
    by_cases hnil : from_ = []
    · subst hnil
      simp only [SlotMap.fromList, sitesFrom, exposedFrom, List.length_nil, List.isEmpty_nil,
        ↓reduceIte] at hfrom hslot ⊢
      rcases w with _ | e <;> rcases w' with _ | e' <;>
        simp only [SlotMap.optExpr, slotLength, sitesOptExpr, List.length_nil,
          String.length_append, String.length_empty] at hw hslot ⊢ <;>
        omega
    · simp only [List.isEmpty_eq_false_iff.mpr hnil, Bool.false_eq_true, ↓reduceIte,
        String.length_append, length_commaList_map, SlotMap.length_fromList]
      rcases w with _ | e <;> rcases w' with _ | e' <;>
        simp only [SlotMap.optExpr, slotLength, sitesOptExpr, List.length_nil,
          String.length_append, String.length_empty] at hw hslot ⊢ <;>
        omega

theorem fromList_render_grows : (ts : List TableWithJoins) →
    (ts.map fun t => t.render.length).sum + (f.sitesFrom ts).length ≤
      ((f.placement.adding.fromList ts).map fun t => t.render.length).sum +
        (f.exposedFrom ts).length
  | [] => by simp [SlotMap.fromList, sitesFrom, exposedFrom]
  | t :: rest => by
    have ht := twj_render_grows t
    have hrest := fromList_render_grows rest
    simp only [SlotMap.fromList, sitesFrom, exposedFrom, List.map_cons, List.sum_cons,
      List.length_append]
    omega

theorem twj_render_grows : (t : TableWithJoins) →
    t.render.length + (f.sitesTwj t).length ≤ (f.placement.adding.twj t).render.length
  | .mk rel js => by
    have hrel := factor_render_grows rel
    have hjs := joins_render_grows js
    unfold TableWithJoins.render
    simp only [SlotMap.twj, sitesTwj, List.length_append,
      String.length_append]
    omega

theorem joins_render_grows : (js : List Join) →
    (String.join (js.map fun j => " " ++ j.render)).length + (f.sitesJoins js).length ≤
      (String.join ((f.placement.adding.joins js).map fun j => " " ++ j.render)).length
  | [] => by simp [SlotMap.joins, sitesJoins]
  | j :: rest => by
    have hj := join_render_grows j
    have hrest := joins_render_grows rest
    simp only [SlotMap.joins, sitesJoins, List.map_cons, String.join_cons, List.length_append,
      String.length_append]
    omega

theorem join_render_grows : (j : Join) →
    j.render.length + (f.sitesJoin j).length ≤ (f.placement.adding.join j).render.length
  | .mk rel op => by
    have hrel := factor_render_grows rel
    rw [SlotMap.join, Placement.adding_atOn, sitesJoin, List.length_append]
    by_cases hs : joinSite op = .on
    · -- the `ON` slot gets a condition for each reference the right side hands on
      have hon := Join.length_render_addOnPredicates hs rel (f.placement.adding.factor rel)
        ((f.placement.atOn rel).map Condition.toExpr)
      simp only [placement_atOn, List.length_map] at hon
      simp only [hs, ↓reduceIte, placement_atOn]
      omega
    · have hsame := Join.length_render_mk rel (f.placement.adding.factor rel) op
      simp only [hs, ↓reduceIte, List.length_nil]
      rw [show op.mapConstraint (fun c => c) = op from JoinOperator.mapConstraint_id op]
      omega

theorem factor_render_grows : (t : TableFactor) →
    t.render.length + (f.sitesFactor t).length ≤ (f.placement.adding.factor t).render.length
  | .derived l q a => by
    have hq := query_render_grows q
    unfold TableFactor.render
    simp only [SlotMap.factor, sitesFactor, String.length_append]
    omega
  | .nested t a => by
    have ht := twj_render_grows t
    unfold TableFactor.render
    simp only [SlotMap.factor, sitesFactor, String.length_append]
    omega
  | .table .. | .unnest .. | .function .. | .tableFunction .. | .columnsFunction ..
  | .pivot .. | .unpivot .. => by simp [SlotMap.factor, sitesFactor]

theorem expr_render_grows : (e : Expr) →
    e.render.length + (f.sitesExpr e).length ≤ (f.placement.adding.expr e).render.length
  | .unary op e => by
    have he := expr_render_grows e
    cases op <;> unfold Expr.render <;>
      simp only [SlotMap.expr, sitesExpr, String.length_append] <;> omega
  | .cast style e _ => by
    have he := expr_render_grows e
    cases style <;> unfold Expr.render <;>
      simp only [SlotMap.expr, sitesExpr, String.length_append] <;> omega
  | .nested e | .isTest e _ | .interval e _ | .extract _ _ e | .collate e _ | .ceilFloor _ e _ => by
    have he := expr_render_grows e
    unfold Expr.render
    simp only [SlotMap.expr, sitesExpr, String.length_append]
    omega
  | .binary l _ r | .isDistinctFrom l _ r | .atTimeZone l r | .position l r | .memberOf l r
  | .like l _ _ _ r _ => by
    have hl := expr_render_grows l
    have hr := expr_render_grows r
    unfold Expr.render
    simp only [SlotMap.expr, sitesExpr, List.length_append, String.length_append]
    omega
  | .inList e _ items => by
    have he := expr_render_grows e
    have hitems := exprs_render_grows items
    unfold Expr.render
    simp only [SlotMap.expr, sitesExpr, List.length_append, String.length_append,
      length_commaList_map, SlotMap.length_exprs]
    omega
  | .inSubquery e _ q => by
    have he := expr_render_grows e
    have hq := query_render_grows q
    unfold Expr.render
    simp only [SlotMap.expr, sitesExpr, List.length_append, String.length_append]
    omega
  | .between e _ lo hi => by
    have he := expr_render_grows e
    have hlo := expr_render_grows lo
    have hhi := expr_render_grows hi
    unfold Expr.render
    simp only [SlotMap.expr, sitesExpr, List.length_append, String.length_append]
    omega
  | .call name args wg filter nt window => by
    have hargs := functionArgs_render_grows args
    have hwg := orderBys_render_grows wg
    have hfilter := optExpr_render_grows filter
    have hwindow := optWindow_render_grows window
    unfold Expr.render
    simp only [SlotMap.expr, sitesExpr, List.length_append, String.length_append]
    -- the `WITHIN GROUP` keys, the filter and the window, each printed when written
    rcases wg with _ | ⟨o, os⟩ <;> rcases filter with _ | e <;> rcases window with _ | _ | _ <;>
      simp only [SlotMap.orderBys, sitesOrderBys, SlotMap.isEmpty_orderBys, List.isEmpty_nil,
        List.isEmpty_cons, Bool.false_eq_true, ↓reduceIte, length_commaList_map,
        SlotMap.length_orderBys, SlotMap.optExpr, SlotMap.optWindow, slotLength, sitesOptExpr,
        sitesOptWindow, Option.elim, String.length_append, String.length_empty, List.length_nil,
        List.map_nil, List.sum_nil] at hwg hfilter hwindow ⊢ <;>
      omega
  | .exists _ q | .subquery q => by
    have hq := query_render_grows q
    unfold Expr.render
    simp only [SlotMap.expr, sitesExpr, String.length_append]
    omega
  | .quantified l op qu r => by
    have hl := expr_render_grows l
    have hr := expr_render_grows r
    unfold Expr.render
    simp only [SlotMap.expr, sitesExpr, List.length_append, String.length_append]
    -- a subquery on the right is printed in one pair of parentheses, and stays a subquery
    split <;> split
    · rename_i q _ q' hq'
      rw [SlotMap.expr, Expr.subquery.injEq] at hq'
      subst hq'
      unfold Expr.render at hr
      simp only [SlotMap.expr, sitesExpr, String.length_append] at hr ⊢
      omega
    · rename_i q _ hnot
      exact absurd (by rw [SlotMap.expr]) (hnot _)
    · rename_i hnot _ q' hq'
      obtain ⟨q, rfl⟩ := SlotMap.eq_subquery_of_expr _ hq'
      exact absurd rfl (hnot q)
    · simp only [String.length_append] at hr ⊢
      omega
  | .case operand whens otherwise => by
    have hoperand := optExpr_render_grows operand
    have hwhens := whens_render_grows whens
    have hotherwise := optExpr_render_grows otherwise
    unfold Expr.render
    simp only [SlotMap.expr, sitesExpr, List.length_append, String.length_append]
    rcases operand with _ | o <;> rcases otherwise with _ | o' <;>
      simp only [SlotMap.optExpr, slotLength, sitesOptExpr, String.length_append,
        List.length_nil] at hoperand hotherwise ⊢ <;>
      omega
  | .array _ elems | .tuple elems => by
    have helems := exprs_render_grows elems
    unfold Expr.render
    simp only [SlotMap.expr, sitesExpr, String.length_append, length_commaList_map,
      SlotMap.length_exprs]
    omega
  | .substring e s l _ _ => by
    have he := expr_render_grows e
    have hs := optExpr_render_grows s
    have hl := optExpr_render_grows l
    unfold Expr.render
    simp only [SlotMap.expr, sitesExpr, List.length_append, String.length_append]
    rcases s with _ | s <;> rcases l with _ | l <;>
      simp only [SlotMap.optExpr, slotLength, sitesOptExpr, String.length_append,
        List.length_nil] at hs hl ⊢ <;>
      omega
  | .trim _ what e chars => by
    have he := expr_render_grows e
    have hwhat := optExpr_render_grows what
    have hchars := exprs_render_grows chars
    unfold Expr.render
    simp only [SlotMap.expr, sitesExpr, List.length_append, String.length_append]
    rcases chars with _ | ⟨c, cs⟩ <;> rcases what with _ | w <;>
      simp only [SlotMap.exprs, sitesExprs, List.isEmpty_nil,
        List.isEmpty_cons, Bool.false_eq_true, ↓reduceIte, length_commaList_map,
        SlotMap.length_exprs, SlotMap.optExpr, slotLength, sitesOptExpr, String.length_append,
        String.length_empty, List.length_nil, List.length_cons, List.map_nil, List.sum_nil]
        at hchars hwhat ⊢ <;>
      omega
  | .convert _ e ty charset typeFirst styles => by
    have he := expr_render_grows e
    have hstyles := exprs_render_grows styles
    unfold Expr.render
    simp only [SlotMap.expr, sitesExpr, List.length_append, String.length_append]
    -- the expression is printed in every form of the type and character set
    rcases styles with _ | ⟨c, cs⟩ <;> rcases ty with _ | ty <;> rcases charset with _ | cs' <;>
      cases typeFirst <;>
      simp only [SlotMap.exprs, sitesExprs, List.isEmpty_nil,
        List.isEmpty_cons, Bool.false_eq_true, ↓reduceIte, length_commaList_map,
        SlotMap.length_exprs, String.length_append, String.length_empty, List.length_nil,
        List.length_cons, List.map_nil, List.sum_nil] at hstyles ⊢ <;>
      omega
  | .overlay e what start len => by
    have he := expr_render_grows e
    have hwhat := expr_render_grows what
    have hstart := expr_render_grows start
    have hlen := optExpr_render_grows len
    unfold Expr.render
    simp only [SlotMap.expr, sitesExpr, List.length_append, String.length_append]
    rcases len with _ | len <;>
      simp only [SlotMap.optExpr, slotLength, sitesOptExpr, String.length_append,
        List.length_nil] at hlen ⊢ <;>
      omega
  | .fieldAccess root chain => by
    have hroot := expr_render_grows root
    have hchain := accesses_render_grows chain
    unfold Expr.render
    simp only [SlotMap.expr, sitesExpr, List.length_append, String.length_append,
      length_join_map]
    omega
  | .ident _ | .compound _ | .wildcard | .qualifiedWildcard _ | .value _ | .typedString ..
  | .introduced .. | .matchAgainst .. | .groupingSets _ | .cube _ | .rollup _ => by
    simp [SlotMap.expr, sitesExpr]

theorem exprs_render_grows : (es : List Expr) →
    (es.map fun e => e.render.length).sum + (f.sitesExprs es).length ≤
      ((f.placement.adding.exprs es).map fun e => e.render.length).sum
  | [] => by simp [SlotMap.exprs, sitesExprs]
  | e :: rest => by
    have he := expr_render_grows e
    have hrest := exprs_render_grows rest
    simp only [SlotMap.exprs, sitesExprs, List.map_cons, List.sum_cons, List.length_append]
    omega

theorem optExpr_render_grows : (o : Option Expr) →
    slotLength o + (f.sitesOptExpr o).length ≤ slotLength (f.placement.adding.optExpr o)
  | none => by simp [SlotMap.optExpr, sitesOptExpr, slotLength]
  | some e => by
    have he := expr_render_grows e
    simp only [SlotMap.optExpr, sitesOptExpr, slotLength]
    omega

theorem accesses_render_grows : (as : List Access) →
    (as.map fun a => a.render.length).sum + (f.sitesAccesses as).length ≤
      ((f.placement.adding.accesses as).map fun a => a.render.length).sum
  | [] => by simp [SlotMap.accesses, sitesAccesses]
  | .dot e :: rest | .index e :: rest => by
    have he := expr_render_grows e
    have hrest := accesses_render_grows rest
    simp only [SlotMap.accesses, sitesAccesses, List.map_cons, List.sum_cons,
      List.length_append]
    rw [Access.render.eq_def, Access.render.eq_def]
    simp only [String.length_append]
    omega
  | .slice lo up st :: rest => by
    have hlo := optExpr_render_grows lo
    have hup := optExpr_render_grows up
    have hst := optExpr_render_grows st
    have hrest := accesses_render_grows rest
    simp only [SlotMap.accesses, sitesAccesses, List.map_cons, List.sum_cons, List.length_append]
    rw [Access.render.eq_def, Access.render.eq_def]
    rcases lo with _ | lo <;> rcases up with _ | up <;> rcases st with _ | st <;>
      simp only [SlotMap.optExpr, slotLength, sitesOptExpr, String.length_append,
        List.length_nil] at hlo hup hst ⊢ <;>
      omega

theorem whens_render_grows : (ws : List WhenBranch) →
    (String.join (ws.map fun w => " " ++ w.render)).length + (f.sitesWhens ws).length ≤
      (String.join ((f.placement.adding.whens ws).map fun w => " " ++ w.render)).length
  | [] => by simp [SlotMap.whens, sitesWhens]
  | .mk c r :: rest => by
    have hc := expr_render_grows c
    have hr := expr_render_grows r
    have hrest := whens_render_grows rest
    simp only [SlotMap.whens, sitesWhens, List.map_cons, String.join_cons,
      List.length_append]
    rw [WhenBranch.render.eq_def, WhenBranch.render.eq_def]
    simp only [String.length_append]
    omega

theorem functionArgs_render_grows : (a : FunctionArgs) →
    a.render.length + (f.sitesFunctionArgs a).length ≤
      (f.placement.adding.functionArgs a).render.length
  | .none => by simp [SlotMap.functionArgs, sitesFunctionArgs]
  | .subquery q => by
    have hq := query_render_grows q
    unfold FunctionArgs.render
    simp only [SlotMap.functionArgs, sitesFunctionArgs, String.length_append]
    omega
  | .list d args clauses => by
    have hargs := functionArgList_render_grows args
    have hclauses := argClauses_render_grows clauses
    have hsp : " ".length = 1 := rfl
    unfold FunctionArgs.render
    simp only [SlotMap.functionArgs, sitesFunctionArgs, SlotMap.isEmpty_functionArgList,
      List.length_append, String.length_append, length_commaList_map,
      SlotMap.length_functionArgList]
    -- the clauses follow the arguments, a space apart when there are both
    rcases clauses with _ | ⟨c, cs⟩ <;>
      simp only [SlotMap.argClauses, sitesArgClauses, SlotMap.isEmpty_argClauses,
        List.isEmpty_nil, List.isEmpty_cons, Bool.false_eq_true, ↓reduceIte,
        length_intercalate_map, SlotMap.length_argClauses, hsp, Nat.mul_one, String.length_append,
        String.length_empty, List.length_nil, List.map_nil, List.sum_nil] at hclauses ⊢ <;>
      omega

theorem argClauses_render_grows : (cs : List ArgClause) →
    (cs.map fun c => c.render.length).sum + (f.sitesArgClauses cs).length ≤
      ((f.placement.adding.argClauses cs).map fun c => c.render.length).sum
  | [] => by simp [SlotMap.argClauses, sitesArgClauses]
  | .orderBy keys :: rest => by
    have hkeys := orderBys_render_grows keys
    have hrest := argClauses_render_grows rest
    simp only [SlotMap.argClauses, sitesArgClauses, List.map_cons, List.sum_cons,
      List.length_append]
    rw [ArgClause.render.eq_def, ArgClause.render.eq_def]
    simp only [String.length_append, length_commaList_map, SlotMap.length_orderBys]
    omega
  | .limit e :: rest | .having _ e :: rest => by
    have he := expr_render_grows e
    have hrest := argClauses_render_grows rest
    simp only [SlotMap.argClauses, sitesArgClauses, List.map_cons, List.sum_cons,
      List.length_append]
    rw [ArgClause.render.eq_def, ArgClause.render.eq_def]
    simp only [String.length_append]
    omega
  | .onOverflowTruncate filler _ :: rest => by
    have hfiller := optExpr_render_grows filler
    have hrest := argClauses_render_grows rest
    simp only [SlotMap.argClauses, sitesArgClauses, List.map_cons, List.sum_cons,
      List.length_append]
    rw [ArgClause.render.eq_def, ArgClause.render.eq_def]
    rcases filler with _ | e <;>
      simp only [SlotMap.optExpr, slotLength, sitesOptExpr, String.length_append,
        List.length_nil] at hfiller ⊢ <;>
      omega
  | .nullTreatment _ :: rest | .separator _ :: rest | .onOverflowError :: rest | .jsonNull _ :: rest
  | .returning _ :: rest => by
    have hrest := argClauses_render_grows rest
    simp only [SlotMap.argClauses, sitesArgClauses, List.map_cons, List.sum_cons]
    omega

theorem functionArgList_render_grows : (as : List FunctionArg) →
    (as.map fun a => a.render.length).sum + (f.sitesFunctionArgList as).length ≤
      ((f.placement.adding.functionArgList as).map fun a => a.render.length).sum
  | [] => by simp [SlotMap.functionArgList, sitesFunctionArgList]
  | .unnamed e :: rest | .named _ _ e :: rest => by
    have he := expr_render_grows e
    have hrest := functionArgList_render_grows rest
    simp only [SlotMap.functionArgList, sitesFunctionArgList, List.map_cons,
      List.sum_cons, List.length_append]
    rw [FunctionArg.render.eq_def, FunctionArg.render.eq_def]
    simp only [String.length_append]
    omega

theorem optWindow_render_grows : (w : Option WindowSpec) →
    (w.elim 0 fun w => w.render.length) + (f.sitesOptWindow w).length ≤
      ((f.placement.adding.optWindow w).elim 0 fun w => w.render.length)
  | none | some (.named _) => by simp [SlotMap.optWindow, sitesOptWindow]
  | some (.spec n parts orderBy frame) => by
    have hparts := exprs_render_grows parts
    have horderBy := orderBys_render_grows orderBy
    have hframe := optFrame_render_grows frame
    have hsp : " ".length = 1 := rfl
    simp only [SlotMap.optWindow, sitesOptWindow, Option.elim, List.length_append]
    unfold WindowSpec.render
    simp only [String.length_append, length_intercalate, hsp, Nat.mul_one, List.map_append,
      List.sum_append, List.length_append]
    -- the partition keys, the ordering and the frame are each one piece when written
    rcases parts with _ | ⟨p, ps⟩ <;> rcases orderBy with _ | ⟨o, os⟩ <;>
      rcases frame with _ | ⟨units, start, finish⟩ <;>
      simp only [SlotMap.exprs, sitesExprs, SlotMap.orderBys, sitesOrderBys,
        SlotMap.isEmpty_orderBys, SlotMap.optFrame, sitesOptFrame, Option.elim, List.isEmpty_nil,
        List.isEmpty_cons, Bool.false_eq_true, ↓reduceIte, length_commaList_map,
        SlotMap.length_exprs, SlotMap.length_orderBys, String.length_append, List.length_nil,
        List.length_cons, List.map_nil, List.map_singleton, List.sum_nil, List.sum_cons]
        at hparts horderBy hframe ⊢ <;>
      omega

theorem optFrame_render_grows : (w : Option WindowFrame) →
    (w.elim 0 fun w => w.render.length) + (f.sitesOptFrame w).length ≤
      ((f.placement.adding.optFrame w).elim 0 fun w => w.render.length)
  | none => by simp [SlotMap.optFrame, sitesOptFrame]
  | some (.mk units start finish) => by
    have hstart := frameBound_render_grows start
    have hfinish := optFrameBound_render_grows finish
    rcases finish with _ | b <;>
      simp only [SlotMap.optFrame, SlotMap.optFrameBound, sitesOptFrame, sitesOptFrameBound,
        Option.elim, WindowFrame.render, String.length_append, List.length_append,
        List.length_nil] at hfinish ⊢ <;>
      omega

theorem optFrameBound_render_grows : (b : Option FrameBound) →
    (b.elim 0 fun b => b.render.length) + (f.sitesOptFrameBound b).length ≤
      ((f.placement.adding.optFrameBound b).elim 0 fun b => b.render.length)
  | none => by simp [SlotMap.optFrameBound, sitesOptFrameBound]
  | some b => by
    have hb := frameBound_render_grows b
    simpa only [SlotMap.optFrameBound, sitesOptFrameBound, Option.elim] using hb

theorem frameBound_render_grows : (b : FrameBound) →
    b.render.length + (f.sitesFrameBound b).length ≤
      (f.placement.adding.frameBound b).render.length
  | .currentRow => by simp [SlotMap.frameBound, sitesFrameBound]
  | .preceding offset | .following offset => by
    have ho := optExpr_render_grows offset
    rcases offset with _ | e <;>
      simp only [SlotMap.frameBound, SlotMap.optExpr, FrameBound.render, sitesFrameBound,
        sitesOptExpr, slotLength, String.length_append, List.length_nil] at ho ⊢ <;>
      omega

theorem orderBys_render_grows : (os : List OrderByExpr) →
    (os.map fun o => o.render.length).sum + (f.sitesOrderBys os).length ≤
      ((f.placement.adding.orderBys os).map fun o => o.render.length).sum
  | [] => by simp [SlotMap.orderBys, sitesOrderBys]
  | .mk e _ _ :: rest => by
    have he := expr_render_grows e
    have hrest := orderBys_render_grows rest
    simp only [SlotMap.orderBys, sitesOrderBys, List.map_cons, List.sum_cons,
      List.length_append]
    rw [OrderByExpr.render.eq_def, OrderByExpr.render.eq_def]
    simp only [String.length_append]
    omega

end

theorem update_render_grows (u : Update) :
    u.render.length + (f.sitesUpdate u).length ≤ (f.placement.adding.update u).render.length := by
  obtain ⟨orClause, table, assignments, from_, selection, returning, limit⟩ := u
  have htable := twj_render_grows f table
  have hfrom := fromList_render_grows f (updateFromTables from_)
  have hw := optExpr_render_grows f selection
  have hslot := slotLength_addPredicates (f.placement.adding.optExpr selection)
    ((f.placement.atWhere (table :: updateFromTables from_)).map Condition.toExpr)
  have hwhere : " WHERE ".length = 7 := rfl
  simp only [SlotMap.update, Placement.adding_atWhere, sitesUpdate, List.length_append]
  unfold Update.render
  generalize Filter.addPredicates (f.placement.adding.optExpr selection) _ = w' at hslot ⊢
  simp only [placement_atWhere, List.length_map, exposedFrom, List.length_append] at hslot
  -- the `FROM` list, before or after `SET`, then the `WHERE`, which gets what the updated
  -- table and the list hand on
  rcases from_ with _ | ⟨ts⟩ | ⟨ts⟩ <;> rcases selection with _ | e <;> rcases w' with _ | e' <;>
    simp only [SlotMap.updateFrom, updateFromTables, renderTables, sitesFrom, exposedFrom,
      SlotMap.fromList, SlotMap.optExpr, slotLength, sitesOptExpr, length_commaList_map,
      SlotMap.length_fromList, String.length_append, String.length_empty, List.length_nil,
      List.map_nil, List.sum_nil] at hfrom hw hslot ⊢ <;>
    omega

theorem delete_render_grows (d : Delete) :
    d.render.length + (f.sitesDelete d).length ≤ (f.placement.adding.delete d).render.length := by
  obtain ⟨tables, fromKeyword, from_, usingTables, selection, returning, orderBy, limit⟩ := d
  have hfrom := fromList_render_grows f from_
  have husing := fromList_render_grows f (usingTables.getD [])
  have hw := optExpr_render_grows f selection
  have hslot := slotLength_addPredicates (f.placement.adding.optExpr selection)
    ((f.placement.atWhere (from_ ++ usingTables.getD [])).map Condition.toExpr)
  have hwhere : " WHERE ".length = 7 := rfl
  simp only [SlotMap.delete, Placement.adding_atWhere, sitesDelete, List.length_append]
  unfold Delete.render
  generalize Filter.addPredicates (f.placement.adding.optExpr selection) _ = w' at hslot ⊢
  simp only [placement_atWhere, List.length_map, exposedFrom_append, List.length_append] at hslot
  -- the `FROM` and `USING` lists, then the `WHERE`, which gets what both hand on
  rcases from_ with _ | ⟨t, ts⟩ <;> rcases usingTables with _ | us <;>
    rcases selection with _ | e <;> rcases w' with _ | e' <;>
    simp only [Option.getD, Option.map, renderTables, sitesFrom, exposedFrom, SlotMap.fromList,
      SlotMap.optExpr, slotLength, sitesOptExpr, length_commaList_map, SlotMap.length_fromList,
      List.isEmpty_nil, List.isEmpty_cons, Bool.false_eq_true, ↓reduceIte, String.length_append,
      String.length_empty, List.length_nil, List.length_cons, List.map_nil, List.sum_nil]
      at hfrom husing hw hslot ⊢ <;>
    omega

/-- Scoping a statement prints it longer by at least one character for each reference it
binds: every slot it fills is printed, and nothing else prints shorter. -/
theorem statement_render_grows (s : Statement) :
    s.render.length + (f.sitesStatement s).length ≤
      (f.placement.adding.statement s).render.length := by
  cases s with
  | query q => exact query_render_grows f q
  | update u => exact update_render_grows f u
  | delete d => exact delete_render_grows f d
  | insert _ | other _ => simp [SlotMap.statement, sitesStatement]

end Filter

end SqlScope.Scope
