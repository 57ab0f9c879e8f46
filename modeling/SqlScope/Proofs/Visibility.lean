import SqlScope.Proofs.Outcome

/-!
# Which qualifiers a slot can see

A condition names its table reference by a qualifier: the reference's alias, or the
last part of its name. For the condition to mean anything, that qualifier has to be a
range variable the clause it lands in can see. The range variables a source makes
visible are its own name, for a table; its alias, for a derived table or a join group
that has one; and the names of its parts, for a join group without an alias. An alias on
a join group hides the names inside it.

The slots of a statement are the `WHERE` of each block a filter reaches, given by the
block's sources, and the `ON` of each join in those blocks. A filter hands each slot the
qualifiers of the references it owes it (`Filter.slotQualifiers`), and every reference it
binds is handed to exactly one slot. A join group passes the qualifiers of its parts on
whether or not it has an alias, so a qualifier handed out of an aliased group names a range
variable the slot cannot see; when no join group of a slot's sources has an alias, every
qualifier is visible there.

## Main statements

- `Filter.sites_perm_slots`: the references a filter binds are those it hands the slots.
- `Filter.scope_qualifiers_visible`: a successful scoping binds the references it hands the
  slots, and every qualifier a slot without aliased join groups gets is visible there.
- `Filter.scope_hides_qualifier_in_aliased_group`: a qualifier handed out of an aliased join
  group lands in a `WHERE` that cannot see it.
-/

namespace SqlScope.Scope

open SqlScope.Sql

/-! ## Visible range variables -/

mutual

/-- The range variables a source with its joins makes visible. -/
def visibleTwj : TableWithJoins → List Ident
  | .mk rel js => visibleFactor rel ++ visibleJoins js

def visibleJoins : List Join → List Ident
  | [] => []
  | .mk rel _ :: rest => visibleFactor rel ++ visibleJoins rest

/-- A table is seen by its qualifier, a join group without an alias by the names of its
parts, and any other source by its alias, if it has one. -/
def visibleFactor : TableFactor → List Ident
  | .table name _ _ aliasName .. => (qualifier name aliasName).toList
  | .nested t none => visibleTwj t
  | other => (other.aliasOf.map (·.name)).toList

end

/-- The range variables a list of sources makes visible. -/
def visibleFrom : List TableWithJoins → List Ident
  | [] => []
  | t :: rest => visibleTwj t ++ visibleFrom rest

mutual

/-- Whether no join group of a source, or of a group in it, has an alias. -/
def unaliasedTwj : TableWithJoins → Bool
  | .mk rel js => unaliasedFactor rel && unaliasedJoins js

def unaliasedJoins : List Join → Bool
  | [] => true
  | .mk rel _ :: rest => unaliasedFactor rel && unaliasedJoins rest

def unaliasedFactor : TableFactor → Bool
  | .nested t a => a.isNone && unaliasedTwj t
  | _ => true

end

/-! ## Slots -/

/-- A predicate slot of a statement: the `WHERE` of a block, given by the block's sources,
or the `ON` of a join. -/
inductive Slot where
  | block (sources : List TableWithJoins)
  | join (j : Join)

namespace Slot

/-- The range variables a slot can see: those of the block's sources, or those of the
join's right side. -/
def visible : Slot → List Ident
  | .block ts => visibleFrom ts
  | .join (.mk rel _) => visibleFactor rel

/-- Whether no join group of the sources a slot sees has an alias. -/
def unaliased : Slot → Bool
  | .block ts => ts.all unaliasedTwj
  | .join (.mk rel _) => unaliasedFactor rel

end Slot

/-- The qualifiers a filter hands a slot: to a block's `WHERE` what its sources hand on, to
a join's `ON` what its right side hands on when the join takes conditions there. -/
def Filter.slotQualifiers (f : Filter) : Slot → List Ident
  | .block ts => f.exposedFrom ts
  | .join (.mk rel op) => if joinSite op = .on then f.exposedFactor rel else []

mutual

/-- The slots of a query, in the order a filter fills them. -/
def slotsQuery : Query → List Slot
  | .mk _ cs body .. => slotsCtes cs ++ slotsSetExpr body

def slotsCtes : List Cte → List Slot
  | [] => []
  | .mk _ _ q :: rest => slotsQuery q ++ slotsCtes rest

def slotsSetExpr : SetExpr → List Slot
  | .select s => slotsSelect s
  | .query q => slotsQuery q
  | .setOp _ _ l r => slotsSetExpr l ++ slotsSetExpr r
  | _ => []

/-- The slots inside a block's sources, the block's `WHERE`, then the slots of the queries
in it. -/
def slotsSelect : Select → List Slot
  | .mk _ _ _ _ from_ w .. => slotsFrom from_ ++ (.block from_ :: slotsOptExpr w)

def slotsFrom : List TableWithJoins → List Slot
  | [] => []
  | t :: rest => slotsTwj t ++ slotsFrom rest

def slotsTwj : TableWithJoins → List Slot
  | .mk rel js => slotsFactor rel ++ slotsJoins js

def slotsJoins : List Join → List Slot
  | [] => []
  | j :: rest => slotsJoin j ++ slotsJoins rest

/-- The slots inside a join's right side, then the join's `ON`. -/
def slotsJoin : Join → List Slot
  | .mk rel op => slotsFactor rel ++ [.join (.mk rel op)]

def slotsFactor : TableFactor → List Slot
  | .derived _ q _ => slotsQuery q
  | .nested t _ => slotsTwj t
  | _ => []

def slotsExpr : Expr → List Slot
  | .binary l _ r => slotsExpr l ++ slotsExpr r
  | .unary _ e | .nested e | .isTest e _ | .cast _ e _ | .interval e _ | .extract _ _ e
  | .collate e _ | .ceilFloor _ e _ => slotsExpr e
  | .isDistinctFrom l _ r | .quantified l _ _ r | .atTimeZone l r | .position l r
  | .memberOf l r => slotsExpr l ++ slotsExpr r
  | .inList e _ items => slotsExpr e ++ slotsExprs items
  | .inSubquery e _ q => slotsExpr e ++ slotsQuery q
  | .between e _ lo hi => slotsExpr e ++ (slotsExpr lo ++ slotsExpr hi)
  | .like e _ _ _ p _ => slotsExpr e ++ slotsExpr p
  | .call _ args wg filter _ window =>
    slotsFunctionArgs args ++ (slotsOptExpr filter ++ (slotsOptWindow window ++ slotsOrderBys wg))
  | .exists _ q | .subquery q => slotsQuery q
  | .case operand whens otherwise =>
    slotsOptExpr operand ++ (slotsWhens whens ++ slotsOptExpr otherwise)
  | .array _ elems | .tuple elems => slotsExprs elems
  | .substring e s l _ _ => slotsExpr e ++ (slotsOptExpr s ++ slotsOptExpr l)
  | .trim _ what e chars => slotsExpr e ++ (slotsOptExpr what ++ slotsExprs chars)
  | .convert _ e _ _ _ styles => slotsExpr e ++ slotsExprs styles
  | .overlay e what start len =>
    slotsExpr e ++ (slotsExpr what ++ (slotsExpr start ++ slotsOptExpr len))
  | .fieldAccess root chain => slotsExpr root ++ slotsAccesses chain
  | _ => []

def slotsExprs : List Expr → List Slot
  | [] => []
  | e :: rest => slotsExpr e ++ slotsExprs rest

def slotsOptExpr : Option Expr → List Slot
  | none => []
  | some e => slotsExpr e

def slotsAccesses : List Access → List Slot
  | [] => []
  | .dot e :: rest | .index e :: rest => slotsExpr e ++ slotsAccesses rest
  | .slice lo up st :: rest =>
    slotsOptExpr lo ++ (slotsOptExpr up ++ (slotsOptExpr st ++ slotsAccesses rest))

def slotsWhens : List WhenBranch → List Slot
  | [] => []
  | .mk c r :: rest => slotsExpr c ++ (slotsExpr r ++ slotsWhens rest)

def slotsFunctionArgs : FunctionArgs → List Slot
  | .none => []
  | .subquery q => slotsQuery q
  | .list _ args clauses => slotsFunctionArgList args ++ slotsArgClauses clauses

def slotsArgClauses : List ArgClause → List Slot
  | [] => []
  | .orderBy keys :: rest => slotsOrderBys keys ++ slotsArgClauses rest
  | .limit e :: rest | .having _ e :: rest => slotsExpr e ++ slotsArgClauses rest
  | .onOverflowTruncate filler _ :: rest => slotsOptExpr filler ++ slotsArgClauses rest
  | _ :: rest => slotsArgClauses rest

def slotsFunctionArgList : List FunctionArg → List Slot
  | [] => []
  | .unnamed e :: rest | .named _ _ e :: rest => slotsExpr e ++ slotsFunctionArgList rest

def slotsOptWindow : Option WindowSpec → List Slot
  | some (.spec _ parts orderBy frame) =>
    slotsExprs parts ++ (slotsOrderBys orderBy ++ slotsOptFrame frame)
  | _ => []

def slotsOptFrame : Option WindowFrame → List Slot
  | none => []
  | some (.mk _ start finish) => slotsFrameBound start ++ slotsOptFrameBound finish

def slotsOptFrameBound : Option FrameBound → List Slot
  | none => []
  | some b => slotsFrameBound b

def slotsFrameBound : FrameBound → List Slot
  | .currentRow => []
  | .preceding offset | .following offset => slotsOptExpr offset

def slotsOrderBys : List OrderByExpr → List Slot
  | [] => []
  | .mk e _ _ :: rest => slotsExpr e ++ slotsOrderBys rest

end

/-- The slots of an `UPDATE`: those inside its table and `FROM` list, its `WHERE`, which
sees both, then those of the queries in it. -/
def slotsUpdate (u : Update) : List Slot :=
  slotsTwj u.table ++ (slotsFrom (Filter.updateFromTables u.from_) ++
    (.block (u.table :: Filter.updateFromTables u.from_) :: slotsOptExpr u.selection))

/-- The slots of a `DELETE`: those inside its `FROM` and `USING` lists, its `WHERE`, which
sees both, then those of the queries in it. -/
def slotsDelete (d : Delete) : List Slot :=
  slotsFrom d.from_ ++ (slotsFrom (d.usingTables.getD []) ++
    (.block (d.from_ ++ d.usingTables.getD []) :: slotsOptExpr d.selection))

/-- The predicate slots of a statement a filter reaches. -/
def slotsStatement : Statement → List Slot
  | .query q => slotsQuery q
  | .update u => slotsUpdate u
  | .delete d => slotsDelete d
  | _ => []

/-! ## Every bound reference is handed to a slot -/

namespace Filter

/-- Two parts' references, each handed to the slots of its own part. -/
theorem perm_slots_append {f : Filter} {a b : List Ident} {l r : List Slot}
    (ha : a.Perm (l.flatMap f.slotQualifiers)) (hb : b.Perm (r.flatMap f.slotQualifiers)) :
    (a ++ b).Perm ((l ++ r).flatMap f.slotQualifiers) := by
  rw [List.flatMap_append]
  exact ha.append hb

theorem perm_slots_singleton (f : Filter) (sl : Slot) :
    (f.slotQualifiers sl).Perm ([sl].flatMap f.slotQualifiers) := by
  rw [List.flatMap_singleton]

/-- A source of a `FROM` list, ahead of the rest: its own slots come first, and what it
hands on joins what the rest hands on. -/
theorem perm_from_cons {f : Filter} {a e s x : List Ident} {l r : List Slot}
    (ha : a.Perm (l.flatMap f.slotQualifiers)) (hs : s.Perm (r.flatMap f.slotQualifiers ++ x)) :
    (a ++ (e ++ s)).Perm ((l ++ r).flatMap f.slotQualifiers ++ (e ++ x)) := by
  have hswap : (e ++ (r.flatMap f.slotQualifiers ++ x)).Perm
      (r.flatMap f.slotQualifiers ++ (e ++ x)) := List.perm_append_comm_assoc _ _ _
  rw [List.flatMap_append, List.append_assoc]
  exact ha.append ((hs.append_left e).trans hswap)

/-- A block: the slots inside its sources, its `WHERE`, which gets what the sources hand
on, and the slots after it. -/
theorem perm_slots_block {f : Filter} {ts : List TableWithJoins} {a b : List Ident}
    {l r : List Slot} (ha : a.Perm (l.flatMap f.slotQualifiers ++ f.exposedFrom ts))
    (hb : b.Perm (r.flatMap f.slotQualifiers)) :
    (a ++ b).Perm ((l ++ .block ts :: r).flatMap f.slotQualifiers) := by
  rw [List.flatMap_append, List.flatMap_cons, ← List.append_assoc]
  exact ha.append hb

mutual

theorem query_perm_slots (f : Filter) : (q : Query) →
    (f.sitesQuery q).Perm ((slotsQuery q).flatMap f.slotQualifiers)
  | .mk _ cs body .. => perm_slots_append (f.ctes_perm_slots cs) (f.setExpr_perm_slots body)

theorem ctes_perm_slots (f : Filter) : (cs : List Cte) →
    (f.sitesCtes cs).Perm ((slotsCtes cs).flatMap f.slotQualifiers)
  | [] => .nil
  | .mk _ _ q :: rest => perm_slots_append (f.query_perm_slots q) (f.ctes_perm_slots rest)

theorem setExpr_perm_slots (f : Filter) : (e : SetExpr) →
    (f.sitesSetExpr e).Perm ((slotsSetExpr e).flatMap f.slotQualifiers)
  | .select s => f.select_perm_slots s
  | .query q => f.query_perm_slots q
  | .setOp _ _ l r => perm_slots_append (f.setExpr_perm_slots l) (f.setExpr_perm_slots r)
  | .values .. | .table _ | .dml _ => .nil

theorem select_perm_slots (f : Filter) : (s : Select) →
    (f.sitesSelect s).Perm ((slotsSelect s).flatMap f.slotQualifiers)
  | .mk _ _ _ _ from_ w .. =>
    perm_slots_block (f.fromList_perm_slots from_) (f.optExpr_perm_slots w)

theorem fromList_perm_slots (f : Filter) : (ts : List TableWithJoins) →
    (f.sitesFrom ts).Perm ((slotsFrom ts).flatMap f.slotQualifiers ++ f.exposedFrom ts)
  | [] => .nil
  | t :: rest => perm_from_cons (f.twj_perm_slots t) (f.fromList_perm_slots rest)

theorem twj_perm_slots (f : Filter) : (t : TableWithJoins) →
    (f.sitesTwj t).Perm ((slotsTwj t).flatMap f.slotQualifiers)
  | .mk rel js => perm_slots_append (f.factor_perm_slots rel) (f.joins_perm_slots js)

theorem joins_perm_slots (f : Filter) : (js : List Join) →
    (f.sitesJoins js).Perm ((slotsJoins js).flatMap f.slotQualifiers)
  | [] => .nil
  | .mk rel op :: rest =>
    -- the slots inside the right side, then the join's own `ON`
    perm_slots_append (perm_slots_append (f.factor_perm_slots rel)
      (f.perm_slots_singleton (.join (.mk rel op)))) (f.joins_perm_slots rest)

theorem factor_perm_slots (f : Filter) : (t : TableFactor) →
    (f.sitesFactor t).Perm ((slotsFactor t).flatMap f.slotQualifiers)
  | .derived _ q _ => f.query_perm_slots q
  | .nested t _ => f.twj_perm_slots t
  | .table .. | .unnest .. | .function .. | .tableFunction .. | .columnsFunction .. | .pivot ..
  | .unpivot .. => .nil

theorem expr_perm_slots (f : Filter) : (e : Expr) →
    (f.sitesExpr e).Perm ((slotsExpr e).flatMap f.slotQualifiers)
  | .unary _ e | .nested e | .isTest e _ | .cast _ e _ | .interval e _ | .extract _ _ e
  | .collate e _ | .ceilFloor _ e _ => f.expr_perm_slots e
  | .binary l _ r | .isDistinctFrom l _ r | .quantified l _ _ r | .atTimeZone l r | .position l r
  | .memberOf l r | .like l _ _ _ r _ =>
    perm_slots_append (f.expr_perm_slots l) (f.expr_perm_slots r)
  | .inList e _ items | .convert _ e _ _ _ items =>
    perm_slots_append (f.expr_perm_slots e) (f.exprs_perm_slots items)
  | .inSubquery e _ q => perm_slots_append (f.expr_perm_slots e) (f.query_perm_slots q)
  | .between e _ lo hi =>
    perm_slots_append (f.expr_perm_slots e) (perm_slots_append (f.expr_perm_slots lo)
      (f.expr_perm_slots hi))
  | .call _ args wg filter _ window =>
    perm_slots_append (f.functionArgs_perm_slots args) (perm_slots_append (f.optExpr_perm_slots
      filter) (perm_slots_append (f.optWindow_perm_slots window) (f.orderBys_perm_slots wg)))
  | .exists _ q | .subquery q => f.query_perm_slots q
  | .case operand whens otherwise =>
    perm_slots_append (f.optExpr_perm_slots operand) (perm_slots_append (f.whens_perm_slots whens)
      (f.optExpr_perm_slots otherwise))
  | .array _ elems | .tuple elems => f.exprs_perm_slots elems
  | .substring e s l _ _ =>
    perm_slots_append (f.expr_perm_slots e) (perm_slots_append (f.optExpr_perm_slots s)
      (f.optExpr_perm_slots l))
  | .trim _ what e chars =>
    perm_slots_append (f.expr_perm_slots e) (perm_slots_append (f.optExpr_perm_slots what)
      (f.exprs_perm_slots chars))
  | .overlay e what start len =>
    perm_slots_append (f.expr_perm_slots e) (perm_slots_append (f.expr_perm_slots what)
      (perm_slots_append (f.expr_perm_slots start) (f.optExpr_perm_slots len)))
  | .fieldAccess root chain =>
    perm_slots_append (f.expr_perm_slots root) (f.accesses_perm_slots chain)
  | .ident _ | .compound _ | .wildcard | .qualifiedWildcard _ | .value _ | .typedString ..
  | .introduced .. | .matchAgainst .. | .groupingSets _ | .cube _ | .rollup _ => .nil

theorem exprs_perm_slots (f : Filter) : (es : List Expr) →
    (f.sitesExprs es).Perm ((slotsExprs es).flatMap f.slotQualifiers)
  | [] => .nil
  | e :: rest => perm_slots_append (f.expr_perm_slots e) (f.exprs_perm_slots rest)

theorem optExpr_perm_slots (f : Filter) : (e : Option Expr) →
    (f.sitesOptExpr e).Perm ((slotsOptExpr e).flatMap f.slotQualifiers)
  | none => .nil
  | some e => f.expr_perm_slots e

theorem accesses_perm_slots (f : Filter) : (as : List Access) →
    (f.sitesAccesses as).Perm ((slotsAccesses as).flatMap f.slotQualifiers)
  | [] => .nil
  | .dot e :: rest | .index e :: rest =>
    perm_slots_append (f.expr_perm_slots e) (f.accesses_perm_slots rest)
  | .slice lo up st :: rest =>
    perm_slots_append (f.optExpr_perm_slots lo) (perm_slots_append (f.optExpr_perm_slots up)
      (perm_slots_append (f.optExpr_perm_slots st) (f.accesses_perm_slots rest)))

theorem whens_perm_slots (f : Filter) : (ws : List WhenBranch) →
    (f.sitesWhens ws).Perm ((slotsWhens ws).flatMap f.slotQualifiers)
  | [] => .nil
  | .mk c r :: rest =>
    perm_slots_append (f.expr_perm_slots c) (perm_slots_append (f.expr_perm_slots r)
      (f.whens_perm_slots rest))

theorem functionArgs_perm_slots (f : Filter) : (a : FunctionArgs) →
    (f.sitesFunctionArgs a).Perm ((slotsFunctionArgs a).flatMap f.slotQualifiers)
  | .none => .nil
  | .subquery q => f.query_perm_slots q
  | .list _ args clauses =>
    perm_slots_append (f.functionArgList_perm_slots args) (f.argClauses_perm_slots clauses)

theorem argClauses_perm_slots (f : Filter) : (cs : List ArgClause) →
    (f.sitesArgClauses cs).Perm ((slotsArgClauses cs).flatMap f.slotQualifiers)
  | [] => .nil
  | .orderBy keys :: rest =>
    perm_slots_append (f.orderBys_perm_slots keys) (f.argClauses_perm_slots rest)
  | .limit e :: rest | .having _ e :: rest =>
    perm_slots_append (f.expr_perm_slots e) (f.argClauses_perm_slots rest)
  | .onOverflowTruncate filler _ :: rest =>
    perm_slots_append (f.optExpr_perm_slots filler) (f.argClauses_perm_slots rest)
  | .nullTreatment _ :: rest | .separator _ :: rest | .onOverflowError :: rest | .jsonNull _ :: rest
  | .returning _ :: rest => f.argClauses_perm_slots rest

theorem functionArgList_perm_slots (f : Filter) : (as : List FunctionArg) →
    (f.sitesFunctionArgList as).Perm ((slotsFunctionArgList as).flatMap f.slotQualifiers)
  | [] => .nil
  | .unnamed e :: rest | .named _ _ e :: rest =>
    perm_slots_append (f.expr_perm_slots e) (f.functionArgList_perm_slots rest)

theorem optWindow_perm_slots (f : Filter) : (w : Option WindowSpec) →
    (f.sitesOptWindow w).Perm ((slotsOptWindow w).flatMap f.slotQualifiers)
  | none | some (.named _) => .nil
  | some (.spec _ parts orderBy frame) =>
    perm_slots_append (f.exprs_perm_slots parts) (perm_slots_append (f.orderBys_perm_slots orderBy)
      (f.optFrame_perm_slots frame))

theorem optFrame_perm_slots (f : Filter) : (w : Option WindowFrame) →
    (f.sitesOptFrame w).Perm ((slotsOptFrame w).flatMap f.slotQualifiers)
  | none => .nil
  | some (.mk _ start finish) =>
    perm_slots_append (f.frameBound_perm_slots start) (f.optFrameBound_perm_slots finish)

theorem optFrameBound_perm_slots (f : Filter) : (b : Option FrameBound) →
    (f.sitesOptFrameBound b).Perm ((slotsOptFrameBound b).flatMap f.slotQualifiers)
  | none => .nil
  | some b => f.frameBound_perm_slots b

theorem frameBound_perm_slots (f : Filter) : (b : FrameBound) →
    (f.sitesFrameBound b).Perm ((slotsFrameBound b).flatMap f.slotQualifiers)
  | .currentRow => .nil
  | .preceding offset | .following offset => f.optExpr_perm_slots offset

theorem orderBys_perm_slots (f : Filter) : (os : List OrderByExpr) →
    (f.sitesOrderBys os).Perm ((slotsOrderBys os).flatMap f.slotQualifiers)
  | [] => .nil
  | .mk e _ _ :: rest => perm_slots_append (f.expr_perm_slots e) (f.orderBys_perm_slots rest)

end

/-! ## Qualifiers handed out of unaliased groups are visible -/

theorem append_subset_of_subsets {a b c d : List Ident} (h₁ : a ⊆ c) (h₂ : b ⊆ d) :
    a ++ b ⊆ c ++ d :=
  List.append_subset.2
    ⟨List.subset_append_of_subset_left _ h₁, List.subset_append_of_subset_right _ h₂⟩

/-- What is handed on only under a condition. -/
theorem ite_nil_subset {c : Prop} [Decidable c] {l m : List Ident} (h : l ⊆ m) :
    (if c then l else []) ⊆ m := by
  split
  · exact h
  · exact List.nil_subset _

mutual

theorem exposedTwj_subset_visible (f : Filter) : (t : TableWithJoins) → unaliasedTwj t = true →
    f.exposedTwj t ⊆ visibleTwj t
  | .mk rel js, h => by
    have hparts := Bool.and_eq_true_iff.mp h
    exact append_subset_of_subsets (f.exposedFactor_subset_visible rel hparts.1)
      (f.exposedJoins_subset_visible js hparts.2)

theorem exposedJoins_subset_visible (f : Filter) : (js : List Join) → unaliasedJoins js = true →
    f.exposedJoins js ⊆ visibleJoins js
  | [], _ => List.Subset.refl _
  | .mk rel _ :: rest, h => by
    have hparts := Bool.and_eq_true_iff.mp h
    exact append_subset_of_subsets (ite_nil_subset (f.exposedFactor_subset_visible rel hparts.1))
      (f.exposedJoins_subset_visible rest hparts.2)

/-- A filtered table hands on its own qualifier, and a join group without an alias what
its parts hand on; no other source hands anything on. -/
theorem exposedFactor_subset_visible (f : Filter) :
    (rel : TableFactor) → unaliasedFactor rel = true →
    f.exposedFactor rel ⊆ visibleFactor rel
  | .table .., _ => ite_nil_subset (List.Subset.refl _)
  | .nested t none, h => f.exposedTwj_subset_visible t h
  -- an alias on the group makes it aliased
  | .nested _ (some _), h => by cases h
  | .derived .., _ | .unnest .., _ | .function .., _ | .tableFunction .., _
  | .columnsFunction .., _ | .pivot .., _ | .unpivot .., _ => List.nil_subset _

end

variable (f : Filter)

theorem exposedFrom_subset_visible (ts : List TableWithJoins) (h : ts.all unaliasedTwj = true) :
    f.exposedFrom ts ⊆ visibleFrom ts := by
  induction ts with
  | nil => exact List.Subset.refl _
  | cons t rest ih =>
    have hparts := Bool.and_eq_true_iff.mp h
    exact append_subset_of_subsets (f.exposedTwj_subset_visible t hparts.1) (ih hparts.2)

/-- A slot with no aliased join group among its sources sees every qualifier it is handed. -/
theorem slotQualifiers_subset_visible (sl : Slot) (h : sl.unaliased = true) :
    f.slotQualifiers sl ⊆ sl.visible := by
  rcases sl with ts | ⟨rel, op⟩
  · exact f.exposedFrom_subset_visible ts h
  · exact ite_nil_subset (f.exposedFactor_subset_visible rel h)

/-- The references a filter binds in a statement are, with their multiplicities, the
qualifiers it hands the statement's slots. -/
theorem sites_perm_slots (s : Statement) :
    (f.sitesStatement s).Perm ((slotsStatement s).flatMap f.slotQualifiers) := by
  cases s with
  | query q => exact f.query_perm_slots q
  | update u =>
    -- the updated table and the `FROM` list hand on to one `WHERE`
    have h := perm_slots_block (f.fromList_perm_slots (u.table :: updateFromTables u.from_))
      (f.optExpr_perm_slots u.selection)
    simpa only [sitesStatement, sitesUpdate, slotsStatement, slotsUpdate, sitesFrom, slotsFrom,
      List.append_assoc] using h
  | delete d =>
    -- the `FROM` and `USING` lists hand on to one `WHERE`, after the slots of both
    have hsites := (f.fromList_perm_slots d.from_).append
      ((f.fromList_perm_slots (d.usingTables.getD [])).append (f.optExpr_perm_slots d.selection))
    simp only [List.append_assoc] at hsites
    simpa only [sitesStatement, sitesDelete, slotsStatement, slotsDelete, List.flatMap_append,
      List.flatMap_cons, slotQualifiers, exposedFrom_append, List.append_assoc] using
      hsites.trans ((List.perm_append_comm_assoc _ _ _).append_left _)
  | insert _ | other _ => exact .nil

/-! ## Where a scoped statement's qualifiers land -/

/-- A successful scoping hands each slot the qualifiers of the conditions it adds there, and
binds exactly those references; a slot whose sources hold no aliased join group can see
every qualifier it is handed. -/
theorem scope_qualifiers_visible (s s' : Statement) (bound : List Ident)
    (h : f.scope s = (bound, .ok s')) :
    s' = f.placedStatement s ∧ bound.Perm ((slotsStatement s).flatMap f.slotQualifiers) ∧
      ∀ sl ∈ slotsStatement s, sl.unaliased = true → ∀ q ∈ f.slotQualifiers sl, q ∈ sl.visible := by
  obtain ⟨hs, hb, -⟩ := f.statement_succeeds s [] bound s' (run_of_scope h)
  rw [List.nil_append] at hb
  subst hb
  exact ⟨hs, f.sites_perm_slots s, fun sl _ hu => f.slotQualifiers_subset_visible sl hu⟩

end Filter

/-- `(tenant t JOIN users u ON u.tid = t.id)`, a join group under the given alias. -/
def tenantUsersGroup (group : Option TableAlias) : TableWithJoins :=
  let ref := fun (name a : String) =>
    TableFactor.table ⟨[⟨name, none⟩]⟩ [] none (some ⟨true, ⟨a, none⟩, []⟩) [] [] none none false
  let onClause : Expr :=
    .binary (.compound [⟨"u", none⟩, ⟨"tid", none⟩]) .eq (.compound [⟨"t", none⟩, ⟨"id", none⟩])
  .mk (.nested (.mk (ref "tenant" "t") [.mk (ref "users" "u") (.join .plain (.on onClause))]) group)
    []

/-- `SELECT * FROM` the given sources, with the given `WHERE`. -/
def selectAllFrom (from_ : List TableWithJoins) (w : Option Expr) : Statement :=
  .query (.mk false []
    (.select (.mk .none none false [.wildcard .wildcard []] from_ w (.keys [] []) none [] none
      false none [] []))
    [] .none none [] none)

/-- `q.tenant_id = 'T1'` -/
def tenantT1At (q : String) : Expr :=
  .binary (.compound [⟨q, none⟩, ⟨"tenant_id", none⟩]) .eq (Literal.text "T1").toExpr

namespace Filter

/-- Conditions on `tenant`, comparing `tenant_id` with `'T1'`. -/
def tenantT1 : Filter :=
  ⟨⟨"tenant", ["tenant"]⟩, ⟨⟨"tenant", none⟩, ⟨"tenant_id", none⟩, .text "T1"⟩⟩

/-- Without an alias on the group, the `WHERE` that gets `t.tenant_id = 'T1'` sees `t`. -/
theorem scope_qualifiers_visible_in_open_group :
    tenantT1.scope (selectAllFrom [tenantUsersGroup none] none) =
        ([⟨"t", none⟩], .ok (selectAllFrom [tenantUsersGroup none] (some (tenantT1At "t")))) ∧
      (selectAllFrom [tenantUsersGroup none] (some (tenantT1At "t")) =
          tenantT1.placedStatement (selectAllFrom [tenantUsersGroup none] none) ∧
        List.Perm [⟨"t", none⟩] ((slotsStatement (selectAllFrom [tenantUsersGroup none] none)).flatMap
          tenantT1.slotQualifiers) ∧
        ∀ sl ∈ slotsStatement (selectAllFrom [tenantUsersGroup none] none), sl.unaliased = true →
          ∀ q ∈ tenantT1.slotQualifiers sl, q ∈ sl.visible) := by
  have h : tenantT1.scope (selectAllFrom [tenantUsersGroup none] none) =
      ([⟨"t", none⟩], .ok (selectAllFrom [tenantUsersGroup none] (some (tenantT1At "t")))) := rfl
  exact ⟨h, scope_qualifiers_visible tenantT1 _ _ _ h⟩

/-- With the group aliased `g`, scoping still succeeds and puts `t.tenant_id = 'T1'` in the
`WHERE`, where only `g` is visible. -/
theorem scope_hides_qualifier_in_aliased_group :
    tenantT1.scope (selectAllFrom [tenantUsersGroup (some ⟨true, ⟨"g", none⟩, []⟩)] none) =
        ([⟨"t", none⟩], .ok (selectAllFrom [tenantUsersGroup (some ⟨true, ⟨"g", none⟩, []⟩)]
          (some (tenantT1At "t")))) ∧
      ∃ sl ∈ slotsStatement (selectAllFrom [tenantUsersGroup (some ⟨true, ⟨"g", none⟩, []⟩)] none),
        tenantT1.slotQualifiers sl = [⟨"t", none⟩] ∧ sl.visible = [⟨"g", none⟩] := by
  refine ⟨rfl, .block [tenantUsersGroup (some ⟨true, ⟨"g", none⟩, []⟩)], ?_, by decide, rfl⟩
  -- the slots of the query: those of its `WITH` list, none, then those of its block
  exact List.mem_append_right [] (List.mem_append_right _ List.mem_cons_self)

end Filter

end SqlScope.Scope
