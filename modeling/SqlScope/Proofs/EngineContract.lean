import SqlScope.Scope.Engine

/-!
# The engine's contract

What a rewrite does with its rules, for every rule list and every text:

- the engine runs its rules sorted by priority, rules of equal priority in the order
  they were given;
- a text that does not read as exactly one statement fails at the parse stage, with
  the normalized text in a parse error;
- otherwise the rules run in order, each one that accepts the statement as the rules
  before it left it being applied (`Engine.Passes`); the first failure ends the
  rewrite, the rules after it do not run, and nothing the earlier rules did is kept;
- a rewrite that runs through reports the rules applied and whether the printed
  statement changed, and gives the input itself when it did not;
- `run` gives the input when there are no rules or the rewrite fails, and otherwise
  the rewritten text: never a statement that only some of the rules rewrote.

## Main statements

- `Engine.rules_new_sorted`, `Engine.rules_new_filter_priority`: the stable sort.
- `Engine.applyRules_eq_ok_iff`, `Engine.applyRules_eq_error_iff`: a pass through the
  rules, or its first failure.
- `Engine.rewrite_contract`: the whole contract of `rewrite` and `run`.
-/

namespace SqlScope.Scope

open SqlScope.Sql

namespace Logged

@[ext] theorem ext {x y : Logged α} (he : x.events = y.events) (hr : x.result = y.result) :
    x = y := by
  cases x; cases y; simp_all

@[simp] theorem pure_events (a : α) : (pure a : Logged α).events = [] := rfl

@[simp] theorem pure_result (a : α) : (pure a : Logged α).result = a := rfl

@[simp] theorem bind_events (x : Logged α) (f : α → Logged β) :
    (x >>= f).events = x.events ++ (f x.result).events := rfl

@[simp] theorem bind_result (x : Logged α) (f : α → Logged β) :
    (x >>= f).result = (f x.result).result := rfl

end Logged

/-- The failure a rule's failed application is reported as: its own error, or for an
abnormal stop the rule's name with the stop's message, `unknown panic` when it left
none. -/
def RuleFailure.reported (name : String) : RuleFailure → RewriteError
  | .error e => e
  | .abort (some m) => .rulePanicked name m
  | .abort none => .rulePanicked name "unknown panic"

namespace Engine

/-! ## The order of the rules -/

/-- The rules of an engine are sorted by priority. -/
theorem rules_new_sorted (d : Dialect) (rules : List Rule) :
    (Engine.new d rules).rules.Pairwise (fun a b => a.priority ≤ b.priority) := by
  let le := fun a b : Rule => decide (a.priority ≤ b.priority)
  have trans : ∀ a b c : Rule, le a b → le b c → le a c := fun a b c hab hbc => by
    simp only [le, decide_eq_true_eq] at *; omega
  have total : ∀ a b : Rule, le a b || le b a := fun a b => by
    simp only [le, Bool.or_eq_true, decide_eq_true_eq]; omega
  simpa [Engine.new, sortByPriority, le] using List.pairwise_mergeSort trans total rules

/-- Among the rules of one priority, the engine keeps the order they were given in. -/
theorem rules_new_filter_priority (d : Dialect) (rules : List Rule) (p : Int) :
    (Engine.new d rules).rules.filter (fun r => r.priority = p) =
      rules.filter (fun r => r.priority = p) := by
  let le := fun a b : Rule => decide (a.priority ≤ b.priority)
  have trans : ∀ a b c : Rule, le a b → le b c → le a c := fun a b c hab hbc => by
    simp only [le, decide_eq_true_eq] at *; omega
  have total : ∀ a b : Rule, le a b || le b a := fun a b => by
    simp only [le, Bool.or_eq_true, decide_eq_true_eq]; omega
  -- the rules of priority `p` are sorted among themselves, so the sort keeps them in order
  have tied : (rules.filter (fun r => r.priority = p)).Pairwise (fun a b => le a b) :=
    List.pairwise_of_forall_mem_list fun a ha b hb => by
      simp only [List.mem_filter, decide_eq_true_eq] at ha hb
      simp [le, ha.2, hb.2]
  have kept : (rules.filter (fun r => r.priority = p)).Sublist (Engine.new d rules).rules := by
    simpa [Engine.new, sortByPriority] using
      List.sublist_mergeSort trans total tied List.filter_sublist
  have hsub : (rules.filter (fun r => r.priority = p)).Sublist
      ((Engine.new d rules).rules.filter (fun r => r.priority = p)) := by
    simpa using kept.filter (fun r => decide (r.priority = p))
  have hlen : ((Engine.new d rules).rules.filter (fun r => r.priority = p)).length =
      (rules.filter (fun r => r.priority = p)).length :=
    ((List.mergeSort_perm rules le).filter _).length_eq
  exact (hsub.eq_of_length hlen.symm).symm

/-! ## One pass through the rules -/

/-- Applying `rules` in order to `s`, each rule whose test accepts the statement as the
rules before it left it being applied and succeeding, ends in `t`; `names` are the rules
applied, in order. -/
inductive Passes : List Rule → Statement → Statement → List String → Prop
  | nil (s : Statement) : Passes [] s s []
  | skip {r : Rule} {rules : List Rule} {s t : Statement} {names : List String} :
      r.accepts s = false → Passes rules s t names → Passes (r :: rules) s t names
  | apply {r : Rule} {rules : List Rule} {s s' t : Statement} {names : List String} :
      r.accepts s = true → (r.apply s).result = .ok s' → Passes rules s' t names →
      Passes (r :: rules) s t (r.name :: names)

/-- A pass through the rules ends in one statement, with one list of rules applied. -/
theorem Passes.det {rules : List Rule} {s t t' : Statement} {names names' : List String}
    (h : Passes rules s t names) (h' : Passes rules s t' names') : t = t' ∧ names = names' := by
  induction h generalizing names' with
  | nil => cases h'; exact ⟨rfl, rfl⟩
  | skip ha _ ih =>
    cases h' with
    | skip _ hp => exact ih hp
    | apply ha' _ _ => simp [ha] at ha'
  | apply ha hs _ ih =>
    cases h' with
    | skip ha' _ => simp [ha] at ha'
    | apply _ hs' hp =>
      rw [hs] at hs'
      cases hs'
      obtain ⟨rfl, rfl⟩ := ih hp
      exact ⟨rfl, rfl⟩

/-- Either the rules pass through a statement, or some rule is the first to fail: it
accepts the statement the rules before it passed to, and its application fails. -/
theorem passes_or_stops (rules : List Rule) (s : Statement) :
    (∃ t names, Passes rules s t names) ∨
      ∃ pre r post t names f, rules = pre ++ r :: post ∧ Passes pre s t names ∧
        r.accepts t = true ∧ (r.apply t).result = .error f := by
  induction rules generalizing s with
  | nil => exact .inl ⟨s, [], .nil s⟩
  | cons r rules ih =>
    cases ha : r.accepts s with
    | false =>
      rcases ih s with ⟨t, names, hp⟩ | ⟨pre, q, post, t, names, f, rfl, hp, hq, hf⟩
      · exact .inl ⟨t, names, .skip ha hp⟩
      · exact .inr ⟨r :: pre, q, post, t, names, f, rfl, .skip ha hp, hq, hf⟩
    | true =>
      cases hs : (r.apply s).result with
      | error f => exact .inr ⟨[], r, rules, s, [], f, rfl, .nil s, ha, hs⟩
      | ok s' =>
        rcases ih s' with ⟨t, names, hp⟩ | ⟨pre, q, post, t, names, f, rfl, hp, hq, hf⟩
        · exact .inl ⟨t, r.name :: names, .apply ha hs hp⟩
        · exact .inr ⟨r :: pre, q, post, t, r.name :: names, f, rfl, .apply ha hs hp, hq, hf⟩

/-! ## The engine's fold over the rules -/

/-- The fold of `applyRulesLogged`, started from a statement and the rules applied so
far. -/
def applyFrom (rules : List Rule) (acc : Statement × List String) :
    Logged (Except RewriteError (Statement × List String)) :=
  (rules.foldlM (fun acc r => ExceptT.mk (applyRule acc r)) acc).run

theorem applyRulesLogged_eq_applyFrom (rules : List Rule) (s : Statement) :
    applyRulesLogged rules s = applyFrom rules (s, []) := rfl

theorem applyFrom_nil (acc : Statement × List String) : applyFrom [] acc = pure (.ok acc) := rfl

theorem applyFrom_cons_of_ok {r : Rule} {rules : List Rule} {acc a : Statement × List String}
    (h : (applyRule acc r).result = .ok a) :
    applyFrom (r :: rules) acc =
      ⟨(applyRule acc r).events ++ (applyFrom rules a).events, (applyFrom rules a).result⟩ := by
  simp only [applyFrom, List.foldlM_cons, ExceptT.run_bind, ExceptT.run_mk]
  ext <;> simp [h]

theorem applyFrom_cons_of_error {r : Rule} {rules : List Rule} {acc : Statement × List String}
    {e : RewriteError} (h : (applyRule acc r).result = .error e) :
    applyFrom (r :: rules) acc = ⟨(applyRule acc r).events, .error e⟩ := by
  simp only [applyFrom, List.foldlM_cons, ExceptT.run_bind, ExceptT.run_mk]
  ext <;> simp [h]

theorem applyRule_of_rejects {r : Rule} {acc : Statement × List String}
    (h : r.accepts acc.1 = false) : applyRule acc r = pure (.ok acc) := by
  simp [applyRule, h]

theorem applyRule_result_of_ok {r : Rule} {acc : Statement × List String} {s : Statement}
    (ha : r.accepts acc.1 = true) (hs : (r.apply acc.1).result = .ok s) :
    (applyRule acc r).result = .ok (s, acc.2 ++ [r.name]) := by
  simp [applyRule, ha, hs]

theorem applyRule_result_of_error {r : Rule} {acc : Statement × List String} {f : RuleFailure}
    (ha : r.accepts acc.1 = true) (hf : (r.apply acc.1).result = .error f) :
    (applyRule acc r).result = .error (f.reported r.name) := by
  rcases f with e | _ | m <;> simp [applyRule, ha, hf, RuleFailure.reported, abortError]

/-- A pass through the rules is what the fold computes. -/
theorem applyFrom_result_of_passes {rules : List Rule} {s t : Statement} {names : List String}
    (h : Passes rules s t names) (done : List String) :
    (applyFrom rules (s, done)).result = .ok (t, done ++ names) := by
  induction h generalizing done with
  | nil => simp [applyFrom_nil]
  | skip ha _ ih =>
    rw [applyFrom_cons_of_ok (by rw [applyRule_of_rejects ha]; rfl)]
    exact ih done
  | @apply r _ _ _ _ _ ha hs _ ih =>
    rw [applyFrom_cons_of_ok (applyRule_result_of_ok ha hs)]
    simpa using ih (done ++ [r.name])

/-- The first failure ends the fold: the rules after the failing one do not run, so
neither the outcome nor the events depend on them. -/
theorem applyFrom_of_stop {pre : List Rule} {s t : Statement} {names : List String}
    (hp : Passes pre s t names) {r : Rule} {f : RuleFailure} (ha : r.accepts t = true)
    (hf : (r.apply t).result = .error f) (post : List Rule) (done : List String) :
    applyFrom (pre ++ r :: post) (s, done) = applyFrom (pre ++ [r]) (s, done) ∧
      (applyFrom (pre ++ [r]) (s, done)).result = .error (f.reported r.name) := by
  induction hp generalizing done with
  | nil =>
    have h := @applyRule_result_of_error r (_, done) f ha hf
    rw [List.nil_append, List.nil_append, applyFrom_cons_of_error h, applyFrom_cons_of_error h]
    exact ⟨rfl, rfl⟩
  | @skip q _ s _ _ hq _ ih =>
    have h : (applyRule (s, done) q).result = .ok (s, done) := by
      rw [applyRule_of_rejects hq]; rfl
    simp only [List.cons_append, applyFrom_cons_of_ok h]
    obtain ⟨heq, hres⟩ := ih ha hf done
    exact ⟨by rw [heq], hres⟩
  | @apply q _ s _ _ _ hq hs _ ih =>
    simp only [List.cons_append,
      applyFrom_cons_of_ok (@applyRule_result_of_ok q (s, done) _ hq hs)]
    obtain ⟨heq, hres⟩ := ih ha hf (done ++ [q.name])
    exact ⟨by rw [heq], hres⟩

/-- The rules succeed on a statement exactly when they pass through it. -/
theorem applyRules_eq_ok_iff {rules : List Rule} {s t : Statement} {names : List String} :
    applyRules rules s = .ok (t, names) ↔ Passes rules s t names := by
  constructor
  · intro h
    rcases passes_or_stops rules s with ⟨t', names', hp⟩ | ⟨pre, r, post, t', names', f, rfl, hp, ha, hf⟩
    · have h' := applyFrom_result_of_passes hp []
      rw [applyRules, applyRulesLogged_eq_applyFrom, h] at *
      simp only [List.nil_append, Except.ok.injEq, Prod.mk.injEq] at h'
      obtain ⟨rfl, rfl⟩ := h'
      exact hp
    · obtain ⟨heq, hres⟩ := applyFrom_of_stop hp ha hf post []
      rw [applyRules, applyRulesLogged_eq_applyFrom, heq, hres] at h
      cases h
  · intro h
    simpa [applyRules, applyRulesLogged_eq_applyFrom] using applyFrom_result_of_passes h []

/-- The rules fail on a statement exactly when some rule is the first to fail, with the
failure that rule reports. -/
theorem applyRules_eq_error_iff {rules : List Rule} {s : Statement} {e : RewriteError} :
    applyRules rules s = .error e ↔
      ∃ pre r post t names f, rules = pre ++ r :: post ∧ Passes pre s t names ∧
        r.accepts t = true ∧ (r.apply t).result = .error f ∧ e = f.reported r.name := by
  constructor
  · intro h
    rcases passes_or_stops rules s with ⟨t, names, hp⟩ | ⟨pre, r, post, t, names, f, rfl, hp, ha, hf⟩
    · have h' := applyFrom_result_of_passes hp []
      rw [applyRules, applyRulesLogged_eq_applyFrom] at h
      rw [h] at h'
      cases h'
    · obtain ⟨heq, hres⟩ := applyFrom_of_stop hp ha hf post []
      rw [applyRules, applyRulesLogged_eq_applyFrom, heq, hres] at h
      cases h
      exact ⟨pre, r, post, t, names, f, rfl, hp, ha, hf, rfl⟩
  · rintro ⟨pre, r, post, t, names, f, rfl, hp, ha, hf, rfl⟩
    obtain ⟨heq, hres⟩ := applyFrom_of_stop hp ha hf post []
    rw [applyRules, applyRulesLogged_eq_applyFrom, heq, hres]

end Engine

/-- How reading a text as one statement fails: the text is blank once normalized, the
normalized text does not parse, it holds no statement, or more than one. -/
def ParseFailure (sql : String) (err : RewriteError) : Prop :=
  (normalize sql = "" ∧ err = .blankInput) ∨ (∃ m, err = .parse (normalize sql) m) ∨
    err = .emptyStatement ∨ ∃ n, 2 ≤ n ∧ err = .multipleStatements n

theorem parseStatements_error {d : Dialect} {text : String} {err : RewriteError}
    (h : parseStatements d text = .error err) : ∃ m, err = .parse text m := by
  unfold parseStatements at h
  split at h
  · cases h
  · cases h
    exact ⟨_, rfl⟩

/-- Reading a text as one statement fails only at the parse stage. -/
theorem parseStatement_error {d : Dialect} {sql : String} {err : RewriteError}
    (h : parseStatement d sql = .error err) : ParseFailure sql err := by
  unfold parseStatement at h
  by_cases he : (normalize sql).isEmpty
  · simp only [he, if_true] at h
    cases h
    exact .inl ⟨by simpa using he, rfl⟩
  · simp only [he, Bool.false_eq_true, if_false] at h
    cases hp : parseStatements d (normalize sql) with
    | error e =>
      rw [hp] at h
      cases h
      exact .inr (.inl (parseStatements_error hp))
    | ok stmts =>
      rw [hp] at h
      match stmts, h with
      | [], h => cases h; exact .inr (.inr (.inl rfl))
      | [_], h => cases h
      | _ :: _ :: rest, h => cases h; exact .inr (.inr (.inr ⟨rest.length + 2, by omega, by simp⟩))

namespace Engine

/-! ## Rewriting and running -/

theorem rewrite_of_parse_error {e : Engine} {sql : String} {err : RewriteError}
    (h : parseStatement e.dialect sql = .error err) : e.rewrite sql = .error err := by
  simp [rewrite, rewriteLogged, h]

/-- A rewrite whose rules pass through the statement reports the rules applied, and the
printed statement when printing it shows a change, else the input as it was given. -/
theorem rewrite_of_passes {e : Engine} {sql : String} {st t : Statement} {names : List String}
    (h : parseStatement e.dialect sql = .ok st) (hp : Passes e.rules st t names) :
    e.rewrite sql = .ok ⟨sql, if t.render = st.render then sql else t.render,
      decide (t.render ≠ st.render), names⟩ := by
  have ha : (applyRulesLogged e.rules st).result = .ok (t, names) := applyRules_eq_ok_iff.mpr hp
  simp only [rewrite, rewriteLogged, h, Logged.bind_result, ha]
  by_cases hc : t.render = st.render <;> simp [hc]

/-- A rewrite in which a rule fails gives that failure. -/
theorem rewrite_of_stop {e : Engine} {sql : String} {st t : Statement} {names : List String}
    {pre post : List Rule} {r : Rule} {f : RuleFailure}
    (h : parseStatement e.dialect sql = .ok st) (hr : e.rules = pre ++ r :: post)
    (hp : Passes pre st t names) (ha : r.accepts t = true) (hf : (r.apply t).result = .error f) :
    e.rewrite sql = .error (f.reported r.name) := by
  have hs : (applyRulesLogged e.rules st).result = .error (f.reported r.name) :=
    applyRules_eq_error_iff.mpr ⟨pre, r, post, t, names, f, hr, hp, ha, hf, rfl⟩
  simp only [rewrite, rewriteLogged, h, Logged.bind_result, hs]

theorem run_of_rules_nil {e : Engine} (h : e.rules = []) (sql : String) : e.run sql = sql := by
  simp [run, runLogged, h]

theorem run_of_rules_ne_nil {e : Engine} (h : e.rules ≠ []) (sql : String) :
    e.run sql = match e.rewrite sql with
      | .ok r => r.rewritten
      | .error _ => sql := by
  cases hr : (e.rewriteLogged sql).result <;>
    simp only [run, runLogged, List.isEmpty_iff, h, if_false, Logged.bind_result,
      Logged.pure_result, rewrite, hr]

/-- `run` gives the input, or the statement as all the rules left it: never one that
only some of them rewrote. -/
theorem run_eq_input_or_passed (e : Engine) (sql : String) :
    e.run sql = sql ∨ ∃ st t names, parseStatement e.dialect sql = .ok st ∧
      Passes e.rules st t names ∧ e.run sql = t.render := by
  by_cases hn : e.rules = []
  · exact .inl (run_of_rules_nil hn sql)
  rw [run_of_rules_ne_nil hn]
  cases hparse : parseStatement e.dialect sql with
  | error err => simp [rewrite_of_parse_error hparse]
  | ok st =>
    rcases passes_or_stops e.rules st with ⟨t, names, hp⟩ | ⟨pre, r, post, t, names, f, hr, hp, ha, hf⟩
    · rw [rewrite_of_passes hparse hp]
      by_cases hc : t.render = st.render
      · simp [hc]
      · exact .inr ⟨st, t, names, rfl, hp, by simp [hc]⟩
    · simp [rewrite_of_stop hparse hr hp ha hf]

/-- **The engine's contract.** The engine runs its rules sorted by priority, ties kept in
the order given. A text that is not one statement fails at the parse stage. Otherwise the
rules either pass through the statement, each one that accepts the statement as the
rules before it left it being applied, or some rule is the first to fail; a pass gives a
report of the rules applied and of the printed change (the input itself when there is
none), and the first failure is the rewrite's failure, the rules after it not running.
`run` gives the input when there are no rules, and otherwise the rewritten text or,
on failure, the input: never a partly rewritten statement. -/
theorem rewrite_contract (d : Dialect) (rules : List Rule) (sql : String) :
    let e := Engine.new d rules
    (e.rules.Pairwise (fun a b => a.priority ≤ b.priority) ∧
      ∀ p, e.rules.filter (fun r => r.priority = p) = rules.filter (fun r => r.priority = p)) ∧
    (∀ err, parseStatement d sql = .error err →
      e.rewrite sql = .error err ∧ ParseFailure sql err) ∧
    (∀ st, parseStatement d sql = .ok st →
      ((∃ t names, Passes e.rules st t names) ∨
        ∃ pre r post t names f, e.rules = pre ++ r :: post ∧ Passes pre st t names ∧
          r.accepts t = true ∧ (r.apply t).result = .error f) ∧
      (∀ t names, Passes e.rules st t names →
        e.rewrite sql = .ok ⟨sql, if t.render = st.render then sql else t.render,
          decide (t.render ≠ st.render), names⟩) ∧
      (∀ pre r post t names f, e.rules = pre ++ r :: post → Passes pre st t names →
        r.accepts t = true → (r.apply t).result = .error f →
        e.rewrite sql = .error (f.reported r.name) ∧
          ∀ post', applyRulesLogged (pre ++ r :: post') st = applyRulesLogged (pre ++ [r]) st)) ∧
    (rules = [] → e.run sql = sql) ∧
    (rules ≠ [] → e.run sql = match e.rewrite sql with
      | .ok r => r.rewritten
      | .error _ => sql) ∧
    (e.run sql = sql ∨ ∃ st t names, parseStatement d sql = .ok st ∧
      Passes e.rules st t names ∧ e.run sql = t.render) := by
  intro e
  have hnil : e.rules = [] ↔ rules = [] := by
    simp [e, Engine.new, sortByPriority, ← List.length_eq_zero_iff]
  refine ⟨⟨rules_new_sorted d rules, rules_new_filter_priority d rules⟩, ?_, ?_,
    fun h => run_of_rules_nil (hnil.mpr h) sql, fun h => run_of_rules_ne_nil (mt hnil.mp h) sql,
    run_eq_input_or_passed e sql⟩
  · intro err h
    exact ⟨rewrite_of_parse_error h, parseStatement_error h⟩
  · intro st h
    refine ⟨passes_or_stops e.rules st, fun t names hp => rewrite_of_passes h hp, ?_⟩
    intro pre r post t names f hr hp ha hf
    refine ⟨rewrite_of_stop h hr hp ha hf, fun post' => ?_⟩
    simp only [applyRulesLogged_eq_applyFrom]
    exact (applyFrom_of_stop hp ha hf post' []).1

end Engine

end SqlScope.Scope
