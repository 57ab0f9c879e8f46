import Mathlib.Algebra.Order.BigOperators.Group.List
import Mathlib.Algebra.Order.Group.Nat
import SqlScope.Proofs.EngineContract
import SqlScope.Proofs.InsertRows
import SqlScope.Proofs.RuleBuilding
import SqlScope.Proofs.ScopedText

/-!
# A rewrite reports a change exactly when a rule made one

The engine compares the printed statement before and after its rules, and reports a change
only when the two texts differ. The built-in rules make no change that the printed text
hides: a condition rule prints the statement longer by at least one character for each
table reference it binds the condition to, and a column rule prints an insert longer
whenever it adds its column. A rule that binds nothing and adds nothing leaves the
statement as it was. So, whatever rules a configuration builds, a rewrite reports a change
exactly when one of its rules logged binding a condition to a table reference or adding a
column to an insert, and the text it then returns is the printed rewritten statement.

## Main statements

- `ColumnFill.render_grows_of_apply`: an added column lengthens the printed insert.
- `Grows`: a statement grown by the changes a list of events reports; `Grows.trans`.
- `RuleDef.BuildsTo.reportsChanges`: every rule a configuration builds grows the
  statement by the changes it reports.
- `Engine.changed_iff_change_reported`: the engine reports a change exactly when a rule
  reported one.
-/

namespace SqlScope.Sql

open SqlScope.Scope

/-! ## An added column lengthens the printed insert -/

theorem Row.length_render_le_append (items : List Expr) (v : Expr) :
    (Row.mk items).render.length ≤ (Row.mk (items ++ [v])).render.length := by
  unfold Row.render
  simp only [String.length_append, length_commaList_map]
  simp only [List.map_append, List.sum_append, List.length_append, List.map_cons, List.map_nil,
    List.sum_cons, List.sum_nil, List.length_cons, List.length_nil]
  omega

/-- A query prints its body in one place. -/
theorem Query.length_render_withParts (q : Query) (body : SetExpr) :
    q.render.length + body.render.length =
      (q.withParts q.ctes body).render.length + q.body.render.length := by
  rcases q with ⟨r, cs, b, o, l, ft, k, fc⟩
  simp only [Query.withParts, Query.ctes, Query.body]
  unfold Query.render
  simp only [String.length_append]
  omega

end SqlScope.Sql

namespace SqlScope.Scope

open SqlScope.Sql

/-- A call with an argument list prints no shorter with one more argument. -/
theorem length_render_le_appendArgument {v x : Expr} (h : isCallWithArgs x = true) :
    x.render.length ≤ (appendArgument v x).render.length := by
  obtain ⟨name, d, args, clauses, wg, filter, nt, window, rfl, happ⟩ :=
    appendArgument_of_isCallWithArgs (v := v) h
  rw [happ]
  unfold Expr.render
  unfold FunctionArgs.render
  -- a space stands between the arguments and the clauses once there is an argument
  simp only [String.length_append, length_commaList_map]
  rcases args with _ | ⟨a, as⟩ <;> rcases clauses with _ | ⟨c, cs⟩ <;>
    simp only [String.length_append, List.map_append, List.sum_append, List.length_append,
      List.map_cons, List.map_nil, List.sum_cons, List.sum_nil, List.length_cons, List.length_nil,
      List.nil_append, List.cons_append, List.isEmpty_nil, List.isEmpty_cons, Bool.false_eq_true,
      ↓reduceIte, String.length_empty] <;>
    omega

theorem Row.length_render_le_map_appendArgument {items : List Expr} (v : Expr)
    (hcalls : ∀ x ∈ items, isCallWithArgs x = true) :
    (Row.mk items).render.length ≤ (Row.mk (items.map (appendArgument v))).render.length := by
  have hle := List.sum_le_sum fun x hx => length_render_le_appendArgument (v := v) (hcalls x hx)
  unfold Row.render
  simp only [String.length_append, length_commaList_map, List.map_map, Function.comp_def]
  omega

/-- A `VALUES` list that takes a value prints no shorter. -/
theorem TakesValue.length_render_le {v : Expr} {rows rows' : List Row}
    (h : TakesValue v rows rows') (x kw : Bool) :
    (SetExpr.values x kw rows).render.length ≤ (SetExpr.values x kw rows').render.length := by
  unfold SetExpr.render
  simp only [String.length_append, length_intercalate_map]
  cases h with
  | empty => simp
  | batch _ =>
    -- each row gets one more item
    have hle := List.sum_le_sum (l := rows)
      (f := fun r => " ".length + (if x = true then "ROW" else "").length + r.render.length)
      (g := fun r => " ".length + (if x = true then "ROW" else "").length +
        (Row.mk (r.items ++ [v])).render.length) fun r _ => by
      rcases r with ⟨items⟩
      have := Row.length_render_le_append items v
      simp only [Row.items_mk]
      omega
    simp only [List.map_map, List.length_map, Function.comp_def]
    omega
  | @plain items _ =>
    have hrow := Row.length_render_le_append items v
    simp only [List.map_cons, List.map_nil, List.sum_cons, List.sum_nil, List.length_cons,
      List.length_nil]
    omega
  | calls _ hcalls =>
    have hrow := Row.length_render_le_map_appendArgument v hcalls
    simp only [List.map_cons, List.map_nil, List.sum_cons, List.sum_nil, List.length_cons,
      List.length_nil]
    omega

namespace ColumnFill

/-- A column added to an insert prints it longer: the column list gets one more name, and
no row prints shorter. -/
theorem render_grows_of_apply {c : ColumnFill} {ins ins' : Insert}
    (h : c.apply ins = .ok (some ins')) : ins.render.length + 1 ≤ ins'.render.length := by
  obtain ⟨href, ho, q, x, kw, rows, hs, hb⟩ := c.checks_of_apply ins h
  rw [c.apply_of_values ins href ho hs hb] at h
  cases ha : appendValue ins.table.render c.value.toExpr rows with
  | error e =>
    rw [ha] at h
    cases h
  | ok rows' =>
    rw [ha] at h
    cases h
    have hrows := (takesValue_of_appendValue ha).length_render_le x kw
    have hquery := q.length_render_withParts (.values x kw rows')
    rw [hb] at hquery
    have hcols : ins.columns.isEmpty = false := List.isEmpty_eq_false_iff.mpr ho.1
    have hcols' : (ins.columns ++ [c.column]).isEmpty = false := by simp
    unfold Insert.render
    simp only [hs, hcols, hcols', Bool.false_eq_true, ↓reduceIte, String.length_append,
      length_commaList_map]
    simp only [List.map_append, List.sum_append, List.length_append, List.map_cons, List.map_nil,
      List.sum_cons, List.sum_nil, List.length_cons, List.length_nil]
    have hlen : 0 < ins.columns.length := List.length_pos_iff.mpr ho.1
    omega

end ColumnFill

/-! ## Changes reported, and what they do to the statement -/

/-- Whether an event reports a change to the statement: a condition bound to a table
reference, or a column added to an insert. -/
def Event.reportsChange (ev : Event) : Bool :=
  ev.message == "Binding condition to table reference" || ev.message == "Injected insert column"

/-- The number of changes a list of events reports. -/
def changesReported (evs : List Event) : Nat := (evs.filter Event.reportsChange).length

@[simp] theorem changesReported_nil : changesReported [] = 0 := rfl

@[simp] theorem changesReported_append (evs evs' : List Event) :
    changesReported (evs ++ evs') = changesReported evs + changesReported evs' := by
  simp [changesReported, List.filter_append]

theorem changesReported_pos_iff (evs : List Event) :
    0 < changesReported evs ↔ ∃ ev ∈ evs, ev.message = "Binding condition to table reference" ∨
      ev.message = "Injected insert column" := by
  simp [changesReported, Event.reportsChange, List.length_pos_iff_exists_mem]

/-- A statement `t` that `s` grew into by `n` reported changes: it prints at least `n`
characters longer, and it is `s` itself when no change was reported. -/
structure Grows (s t : Statement) (n : Nat) : Prop where
  length_le : s.render.length + n ≤ t.render.length
  eq_of_zero : n = 0 → t = s

namespace Grows

theorem refl (s : Statement) : Grows s s 0 := ⟨Nat.le_refl _, fun _ => rfl⟩

theorem trans {s t u : Statement} {n k : Nat} (h : Grows s t n) (h' : Grows t u k) :
    Grows s u (n + k) where
  length_le := by
    have := h.length_le
    have := h'.length_le
    omega
  eq_of_zero hz := by rw [h'.eq_of_zero (by omega), h.eq_of_zero (by omega)]

/-- A statement that grew by a reported change prints differently. -/
theorem render_ne {s t : Statement} {n : Nat} (h : Grows s t n) (hn : 0 < n) :
    t.render ≠ s.render := fun heq => by
  have := h.length_le
  rw [heq] at this
  omega

end Grows

/-- What a built-in rule promises: whenever applying it succeeds, the statement grows by the
changes its events report. -/
def ReportsChanges (apply : Statement → Logged (Except RuleFailure Statement)) : Prop :=
  ∀ s evs t, apply s = ⟨evs, .ok t⟩ → Grows s t (changesReported evs)

/-! ## The built-in rules report their changes -/

namespace ConditionRule

/-- A condition rule reports one change for each table reference it binds; its closing
event, on the number of references, reports none. -/
theorem changesReported_scoping (r : ConditionRule) (qs : List Ident) (n : Nat) :
    changesReported (qs.map r.bindingEvent ++ (if qs.isEmpty then [] else [r.injectedEvent n])) =
      qs.length := by
  have hkeep : (qs.map r.bindingEvent).filter Event.reportsChange = qs.map r.bindingEvent :=
    List.filter_eq_self.mpr fun ev hev => by
      obtain ⟨q, -, rfl⟩ := List.mem_map.mp hev
      rfl
  have hinjected : (r.injectedEvent n).reportsChange = false := rfl
  rw [changesReported_append]
  cases qs.isEmpty <;> simp [changesReported, hkeep, hinjected]

/-- A condition rule that scopes a statement grows it by the references it binds, and leaves
it as it was when it binds none. -/
theorem reportsChanges (r : ConditionRule) : ReportsChanges r.toTyped.apply := by
  intro s evs t h
  unfold TypedRule.apply at h
  split at h
  · rcases hscope : r.filter.scope s with ⟨bound, result⟩
    simp only [toTyped, hscope] at h
    cases result with
    | error e => cases h
    | ok s' =>
      cases h
      obtain ⟨hfind, rfl⟩ := r.filter.scope_eq_ok (s := s) (by rw [hscope])
      -- the references bound are those of the statement's slots
      rw [r.filter.scope_of_find?_eq_none hfind, Prod.mk.injEq] at hscope
      obtain ⟨rfl, -⟩ := hscope
      rw [changesReported_scoping]
      refine ⟨r.filter.statement_render_grows s, fun hnone => ?_⟩
      exact r.filter.statement_adding_of_sites_nil s (List.length_eq_zero_iff.mp hnone)
  · cases h
    exact Grows.refl s

end ConditionRule

/-- A column rule that adds its column reports it, and the insert prints longer; an insert
it does not take stays as it was. -/
theorem ColumnRule.reportsChanges (r : ColumnRule) : ReportsChanges r.toTyped.apply := by
  intro s evs t h
  unfold TypedRule.apply at h
  split at h
  · cases s with
    | insert i =>
      simp only [toTyped] at h
      cases hfill : r.fill.apply i with
      | error e =>
        rw [hfill] at h
        cases h
      | ok o =>
        rw [hfill] at h
        cases o with
        | none =>
          cases h
          exact Grows.refl _
        | some i' =>
          cases h
          have hgrow := ColumnFill.render_grows_of_apply hfill
          have hcount : changesReported [r.injectedEvent] = 1 := rfl
          rw [hcount]
          exact ⟨hgrow, fun h => absurd h Nat.one_ne_zero⟩
    | query _ | update _ | delete _ | other _ =>
      cases h
      exact Grows.refl _
  · cases h
    exact Grows.refl s

namespace Config.RuleDef

open SqlScope.Config

/-- The typed rule of a condition or column entry reports its changes, whatever priority
the entry sets. -/
theorem toTyped_reportsChanges {d : RuleDef} {t : TypedRule} (h : d.toTyped = .ok t) :
    ReportsChanges t.apply := by
  cases d with
  | addCondition d =>
    cases h
    split
    · exact ConditionRule.reportsChanges _
    · exact ConditionRule.reportsChanges _
  | addColumn d =>
    cases h
    split
    · exact ColumnRule.reportsChanges _
    · exact ColumnRule.reportsChanges _
  | combined => cases h

end Config.RuleDef

/-! ## Runs of rules -/

section Fold

variable {σ α ε : Type} (stmt : σ → Statement) (step : σ → α → Logged (Except ε σ))

/-- A run of logged steps that may fail, each of which grows the statement by the changes
it reports, grows the statement by all the changes reported, when it succeeds. -/
theorem grows_of_foldlM (xs : List α)
    (hstep : ∀ x ∈ xs, ∀ a evs b, step a x = ⟨evs, .ok b⟩ →
      Grows (stmt a) (stmt b) (changesReported evs)) :
    ∀ a evs b, (xs.foldlM (fun a x => ExceptT.mk (step a x)) a).run = ⟨evs, .ok b⟩ →
      Grows (stmt a) (stmt b) (changesReported evs) := by
  induction xs with
  | nil =>
    intro a evs b h
    cases h
    exact Grows.refl _
  | cons x xs ih =>
    intro a evs b h
    simp only [List.foldlM_cons, ExceptT.run_bind, ExceptT.run_mk] at h
    rcases hx : step a x with ⟨evs₁, e | a'⟩
    · rw [hx] at h
      cases h
    · -- the first step succeeds, and the rest of the run starts where it ended
      rw [hx] at h
      have hevs := congrArg Logged.events h
      have hres := congrArg Logged.result h
      simp only [Logged.bind_events, Logged.bind_result] at hevs hres
      have hrest := ih (fun y hy => hstep y (List.mem_cons_of_mem x hy)) a' _ b
        (by rw [← hres])
      have hfirst := hstep x List.mem_cons_self a evs₁ a' hx
      rw [← hevs, changesReported_append]
      exact hfirst.trans hrest

end Fold

/-- A combined rule runs its typed rules one after another: when each reports its changes,
so does the group. -/
theorem Rule.combined_reportsChanges {ts : List TypedRule} (p : Option Int)
    (hts : ∀ t ∈ ts, ReportsChanges t.apply) : ReportsChanges (Rule.combined ts p).apply := by
  intro s evs t h
  -- the group runs its rules sorted by priority, which are its rules
  exact grows_of_foldlM id (fun (s : Statement) (r : TypedRule) => r.apply s)
    (Rule.combinedOrder ts)
    (fun r hr => hts r (by simpa [Rule.combinedOrder, sortByPriority] using hr)) s evs t h

/-- What holds of every right side of a relation holds of every member of a list related to
another member by member. -/
theorem forall_mem_of_forall₂ {R : α → β → Prop} {P : β → Prop} (hR : ∀ a b, R a b → P b) :
    ∀ {xs : List α} {ys : List β}, List.Forall₂ R xs ys → ∀ y ∈ ys, P y
  | _, _, .nil => fun _ hy => absurd hy List.not_mem_nil
  | _, _, .cons hab hrest => fun y hy => by
    rcases List.mem_cons.mp hy with rfl | hy
    · exact hR _ _ hab
    · exact forall_mem_of_forall₂ hR hrest y hy

/-- Every rule built from an entry of a rules file reports its changes: a condition or
column rule, or a group of them. -/
theorem Config.RuleDef.BuildsTo.reportsChanges {d : Config.RuleDef} {r : Rule}
    (h : d.BuildsTo r) : ReportsChanges r.apply := by
  cases h with
  | typed ht => exact Config.RuleDef.toTyped_reportsChanges ht
  | combined hall =>
    exact Rule.combined_reportsChanges _
      (forall_mem_of_forall₂ (fun _ _ ht => Config.RuleDef.toTyped_reportsChanges ht) hall)

namespace Engine

/-- Applying one rule grows the statement by the changes the rule reports: the engine adds
no event of its own when the rule succeeds. -/
theorem applyRule_grows {r : Rule} (hr : ReportsChanges r.apply) {acc acc' : Statement × List String}
    {evs : List Event} (h : applyRule acc r = ⟨evs, .ok acc'⟩) :
    Grows acc.1 acc'.1 (changesReported evs) := by
  unfold applyRule at h
  split at h
  · cases h
    exact Grows.refl _
  · rcases happ : r.apply acc.1 with ⟨evs₁, (e | m) | s⟩
    all_goals
      rw [happ] at h
      have hevs := congrArg Logged.events h
      have hres := congrArg Logged.result h
      simp only [Logged.bind_events, Logged.bind_result] at hevs hres
    · cases hres
    · cases hres
    · cases hres
      simp only [Logged.pure_events, List.append_nil] at hevs
      rw [← hevs]
      exact hr acc.1 evs₁ s happ

/-- Rules that each report their changes grow the statement by all the changes reported. -/
theorem applyRulesLogged_grows {rules : List Rule} (hrules : ∀ r ∈ rules, ReportsChanges r.apply)
    {s t : Statement} {names : List String} {evs : List Event}
    (h : applyRulesLogged rules s = ⟨evs, .ok (t, names)⟩) : Grows s t (changesReported evs) :=
  grows_of_foldlM Prod.fst (fun acc r => applyRule acc r) rules
    (fun r hr _ _ _ hab => applyRule_grows (hrules r hr) hab) (s, []) evs (t, names) h

/-- A rewrite that succeeds read a statement and ran the rules through it; it reports the
changes the rules reported, and a change exactly when the printed statement changed, giving
then the printed statement. -/
theorem rewriteLogged_eq_ok {e : Engine} {sql : String} {evs : List Event} {report : Report}
    (h : e.rewriteLogged sql = ⟨evs, .ok report⟩) :
    ∃ st t evs', parseStatement e.dialect sql = .ok st ∧
      applyRulesLogged e.rules st = ⟨evs', .ok (t, report.applied)⟩ ∧
      changesReported evs = changesReported evs' ∧
      (report.changed = true ↔ t.render ≠ st.render) ∧
      (report.changed = true → report.rewritten = t.render) := by
  unfold rewriteLogged at h
  split at h
  · cases h
  · rename_i st hparse
    rcases happ : applyRulesLogged e.rules st with ⟨evs', _ | ⟨t, names⟩⟩
    all_goals
      rw [happ] at h
      have hevs := congrArg Logged.events h
      have hres := congrArg Logged.result h
      simp only [Logged.bind_events, Logged.bind_result] at hevs hres
    · cases hres
    · -- the closing event reports no change
      by_cases hsame : t.render = st.render
      · simp only [hsame, beq_self_eq_true, ↓reduceIte] at hevs hres
        cases hres
        refine ⟨st, t, evs', hparse, happ, ?_, ?_, ?_⟩
        · rw [← hevs, changesReported_append]
          rfl
        · simp [hsame]
        · intro h
          cases h
      · have hne : (t.render == st.render) = false := by simpa using hsame
        simp only [hne, Bool.false_eq_true, ↓reduceIte] at hevs hres
        cases hres
        refine ⟨st, t, evs', hparse, happ, ?_, ?_, fun _ => rfl⟩
        · rw [← hevs, changesReported_append]
          rfl
        · simp [hsame]

/-- A rewrite by the rules a configuration builds reports a change exactly when one of them
logged binding a condition to a table reference or adding a column to an insert. The text it
then returns is the printed rewritten statement, longer than the statement read by at least
one character for each change reported. -/
theorem changed_iff_change_reported (c : Config.RewriteConfig) (rules : List Rule)
    (hc : c.buildRules = .ok rules) (d : Dialect) (sql : String) :
    ∀ evs report, (Engine.new d rules).rewriteLogged sql = ⟨evs, .ok report⟩ →
      (report.changed = true ↔ ∃ ev ∈ evs, ev.message = "Binding condition to table reference" ∨
        ev.message = "Injected insert column") ∧
      ∃ st, parseStatement d sql = .ok st ∧
        (report.changed = true → st.render.length + changesReported evs ≤ report.rewritten.length) := by
  intro evs report h
  have hbuilt : List.Forall₂ Config.RuleDef.BuildsTo c.rules rules := by
    cases hp : c.problems with
    | nil =>
      obtain ⟨rules', hok, hall⟩ := Config.RewriteConfig.buildRules_of_problems_nil hp
      rw [hc] at hok
      cases hok
      exact hall
    | cons p ps =>
      rw [Config.RewriteConfig.buildRules_of_problems_cons hp] at hc
      cases hc
  -- the engine runs the built rules sorted by priority, and each reports its changes
  have hrules : ∀ r ∈ (Engine.new d rules).rules, ReportsChanges r.apply := fun r hr =>
    forall_mem_of_forall₂ (fun _ _ hb => Config.RuleDef.BuildsTo.reportsChanges hb) hbuilt r
      (by simpa [Engine.new, sortByPriority] using hr)
  obtain ⟨st, t, evs', hparse, happ, hcount, hchanged, hrewritten⟩ := rewriteLogged_eq_ok h
  have hgrows := applyRulesLogged_grows hrules happ
  refine ⟨?_, st, hparse, fun hch => ?_⟩
  · rw [← changesReported_pos_iff, hchanged, hcount]
    constructor
    · intro hne
      refine Nat.pos_of_ne_zero fun hz => hne ?_
      rw [hgrows.eq_of_zero hz]
    · exact hgrows.render_ne
  · rw [hrewritten hch, hcount]
    exact hgrows.length_le

/-- A file with one condition rule builds it. On `SELECT * FROM tenant` the rewrite binds the
condition to `tenant`, returns the printed statement with it, and reports a change, and a
binding event is among those it logged. -/
theorem tenant_condition_reports_changes :
    (({ rules := [.addCondition ⟨.select, "tenant", "tenant_id", .text "T1", none⟩] } :
        Config.RewriteConfig).buildRules =
      .ok [Rule.ofTyped (ConditionRule.new .select "tenant" "tenant_id" (.text "T1")).toTyped]) ∧
    ∃ evs report, (Engine.new .generic
        [Rule.ofTyped (ConditionRule.new .select "tenant" "tenant_id" (.text "T1")).toTyped]).rewriteLogged
          "SELECT * FROM tenant" = ⟨evs, .ok report⟩ ∧
      report.changed = true ∧
      report.rewritten = "SELECT * FROM tenant WHERE tenant.tenant_id = 'T1'" ∧
      (∃ ev ∈ evs, ev.message = "Binding condition to table reference" ∨
        ev.message = "Injected insert column") ∧
      ∃ st, parseStatement .generic "SELECT * FROM tenant" = .ok st ∧
        st.render.length + changesReported evs ≤ report.rewritten.length := by
  -- the run itself, evaluated: it succeeds and changes the text
  have hrun : ((Engine.new .generic
      [Rule.ofTyped (ConditionRule.new .select "tenant" "tenant_id" (.text "T1")).toTyped]).rewriteLogged
        "SELECT * FROM tenant").result.toOption.map (fun r => (r.changed, r.rewritten)) =
      some (true, "SELECT * FROM tenant WHERE tenant.tenant_id = 'T1'") := by
    decide +kernel
  generalize hlog : Engine.rewriteLogged _ _ = out at hrun
  obtain ⟨evs, res⟩ := out
  cases res with
  | error e => cases hrun
  | ok report =>
    have hreport : report.changed = true ∧
        report.rewritten = "SELECT * FROM tenant WHERE tenant.tenant_id = 'T1'" :=
      Prod.mk.inj (Option.some.inj hrun)
    obtain ⟨hiff, st, hst, hlen⟩ := changed_iff_change_reported
      { rules := [.addCondition ⟨.select, "tenant", "tenant_id", .text "T1", none⟩] } _ rfl _ _
      evs report hlog
    exact ⟨rfl, evs, report, rfl, hreport.1, hreport.2, hiff.mp hreport.1, st, hst,
      hlen hreport.1⟩

end Engine

end SqlScope.Scope
