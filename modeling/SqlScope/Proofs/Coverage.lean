import SqlScope.Proofs.EngineContract
import SqlScope.Proofs.Placement

/-!
# Which statements reach a rule

A typed rule runs on the statements of its kind, and the kind of a statement is read
off its top: every query is a select, whatever its body. Two kinds of text follow
from that and escape the rules written for what they do:

- an `UPDATE`, `DELETE` or `INSERT` written behind `WITH` is a query whose body is the
  data-modifying statement, so the update, delete and insert rules never see it;
- a `TABLE t` body reads all of `t`, and a condition's scoping passes it through,
  binding the condition only to the references in the query's common table
  expressions.

## Main statements

- `Engine.rewrite_of_rejects`: a text whose statement no rule is meant for comes back
  as it was.
- `Engine.query_bodies_escape_rules`: the two escapes, for every query.
-/

namespace SqlScope.Scope

open SqlScope.Sql

/-- A typed rule is meant for exactly the statements of its kind. -/
theorem Rule.ofTyped_accepts (t : TypedRule) (s : Statement) :
    (Rule.ofTyped t).accepts s = true ↔ s.kind = t.kind := by
  simp only [Rule.ofTyped, TypedRule.accepts]
  generalize s.kind = a
  generalize t.kind = b
  cases a <;> cases b <;> decide

namespace Engine

/-- Rules that all reject a statement pass it through, applying none. -/
theorem passes_of_rejects {rules : List Rule} {s : Statement}
    (h : ∀ r ∈ rules, r.accepts s = false) : Passes rules s s [] := by
  induction rules with
  | nil => exact .nil s
  | cons r rules ih =>
    exact .skip (h r List.mem_cons_self) (ih fun r' hr' => h r' (List.mem_cons_of_mem r hr'))

/-- A text whose statement no rule is meant for comes back as it was, unchanged,
from both the report and the never-failing run. -/
theorem rewrite_of_rejects {d : Dialect} {rules : List Rule} {sql : String} {st : Statement}
    (hp : parseStatement d sql = .ok st) (h : ∀ r ∈ rules, r.accepts st = false) :
    (Engine.new d rules).rewrite sql = .ok ⟨sql, sql, false, []⟩ ∧
      (Engine.new d rules).run sql = sql := by
  -- sorting keeps the rules, so every rule the engine runs rejects the statement
  have hsorted : ∀ r ∈ (Engine.new d rules).rules, r.accepts st = false := fun r hr =>
    h r ((List.mergeSort_perm _ _).mem_iff.mp hr)
  have hr : (Engine.new d rules).rewrite sql = .ok ⟨sql, sql, false, []⟩ := by
    have h := @rewrite_of_passes (Engine.new d rules) sql st st [] hp (passes_of_rejects hsorted)
    rwa [if_pos rfl, decide_eq_false (fun h => h rfl)] at h
  refine ⟨hr, ?_⟩
  by_cases hn : (Engine.new d rules).rules = []
  · exact run_of_rules_nil hn sql
  · rw [run_of_rules_ne_nil hn, hr]

/-- What the kinds of statement let through, for every query. A typed rule runs on it
exactly when the rule is for selects, whatever the query's body: a text that parses to
it, as every data-modifying statement behind `WITH` does, comes back as it was from
rules none of which is for selects. When its body is `TABLE t` or a data-modifying
statement, a condition's scoping binds only the references in its common table
expressions and leaves the body as it is. -/
theorem query_bodies_escape_rules (q : Query) :
    (∀ t : TypedRule, (Rule.ofTyped t).accepts (.query q) = true ↔ t.kind = .select) ∧
    (∀ (d : Dialect) (typed : List TypedRule) (sql : String),
      (∀ t ∈ typed, t.kind ≠ .select) → parseStatement d sql = .ok (.query q) →
      (Engine.new d (typed.map Rule.ofTyped)).rewrite sql = .ok ⟨sql, sql, false, []⟩ ∧
        (Engine.new d (typed.map Rule.ofTyped)).run sql = sql) ∧
    (∀ (r : Bool) (cs : List Cte) (body : SetExpr) (o : List OrderByExpr) (l : Limit)
      (ft : Option Fetch) (k : List LockClause) (fc : Option String),
      q = .mk r cs body o l ft k fc → ((∃ n, body = .table n) ∨ ∃ text, body = .dml text) →
      ∀ (f : Filter) (bound : List Ident) (s' : Statement),
      f.scope (.query q) = (bound, .ok s') →
      s' = .query (.mk r (f.placedCtes cs) body o l ft k fc) ∧ bound = f.sitesCtes cs) := by
  -- the kind of a query is select, whatever its body
  have hsel : ∀ t : TypedRule, (Rule.ofTyped t).accepts (.query q) = true ↔ t.kind = .select :=
    fun t => (Rule.ofTyped_accepts t _).trans eq_comm
  refine ⟨hsel, ?_, ?_⟩
  · intro d typed sql hk hp
    refine rewrite_of_rejects hp fun r hr => ?_
    obtain ⟨t, ht, rfl⟩ := List.mem_map.mp hr
    -- a rule for inserts, updates, deletes or other statements is not meant for a query
    cases h : (Rule.ofTyped t).accepts (.query q)
    · rfl
    · exact absurd ((hsel t).mp h) (hk t ht)
  · rintro r cs body o l ft k fc rfl hb f bound s' h
    obtain ⟨hs, hbound, _⟩ := f.statement_succeeds _ [] bound s' (Filter.run_of_scope h)
    rw [List.nil_append] at hbound
    rcases hb with ⟨n, rfl⟩ | ⟨text, rfl⟩ <;> exact ⟨hs, hbound.trans (List.append_nil _)⟩

/-- `WITH x AS (...) DELETE FROM tenant` reaches no rule of a delete condition on
`tenant`: its statement comes through the rules unchanged, with none applied. -/
theorem delete_behind_with_passes_delete_rule :
    let rule := Rule.ofTyped (ConditionRule.new .delete "tenant" "tenant_id" (.text "T1")).toTyped
    let st : Statement := .query (.mk false [.mk ⟨false, ⟨"x", none⟩, []⟩ none default]
      (.dml "DELETE FROM tenant") [] .none none [] none)
    applyRules (Engine.new .postgres [rule]).rules st = .ok (st, []) := by
  intro rule st
  exact applyRules_eq_ok_iff.mpr (passes_of_rejects fun r hr => by
    simp only [Engine.new, sortByPriority, List.mergeSort_singleton, List.mem_singleton] at hr
    subst hr
    rfl)

end Engine

end SqlScope.Scope
