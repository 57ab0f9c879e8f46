import SqlScope.Scope.Rule
import SqlScope.Scope.Source

/-!
# The rewrite engine

An engine holds a dialect and a list of rules sorted by priority, equal priorities
keeping the order they were given in. Rewriting a statement reads it, applies
every rule meant for it in that order, and compares the statement's text before
and after.

- The answer records which rules ran, whether the text changed, and the new text;
  when nothing changed the new text is the input exactly as given, not its
  normalized form.
- A rule that fails or stops abnormally ends the rewrite, and every change made so
  far is dropped.
- `run` never fails: it answers the input itself when there are no rules (without
  reading it), when it cannot be read, and when a rule fails.

The logged forms also give the events written on the way: a warning when the
statement cannot be read, an error for a failed rule and another for the failed
rewrite, and a debug event with the outcome. The time a rewrite took is not
measured; events show it as 0.
-/

namespace SqlScope.Scope

open SqlScope.Sql

/-- What one rewrite did. -/
structure Report where
  input : String
  rewritten : String
  changed : Bool
  /-- The names of the rules that were applied, in order. -/
  applied : List String
  deriving Repr, BEq, Inhabited

/-- A dialect and the rules to apply, in the order they run. -/
structure Engine where
  dialect : Dialect
  rules : List Rule

namespace Engine

/-- An engine that runs the rules sorted by priority; equal priorities keep their
order. -/
def new (dialect : Dialect) (rules : List Rule) : Engine :=
  ⟨dialect, sortByPriority Rule.priority rules⟩

/-- The events written when an engine is made: one for the engine, then one for
each rule in the order they run. -/
def creationEvents (e : Engine) : List Event :=
  { level := .debug, target := engineTarget, message := "Rewrite engine created",
    fields := [("rules", toString e.rules.length), ("dialect", e.dialect.name)] } ::
  e.rules.map fun r =>
    { level := .debug, target := engineTarget, message := "Registered rule",
      fields := [("rule", quotedField r.name), ("priority", toString r.priority)] }

/-- The failure a rule's abnormal stop is reported as. -/
def abortError (rule : String) : Option String → RewriteError
  | some m => .rulePanicked rule m
  | none => .rulePanicked rule "unknown panic"

/-- The event for a rule that failed. -/
def ruleFailed (rule : String) (err : RewriteError) : Event where
  level := .error
  target := engineTarget
  message := "Rule failed"
  fields := [("rule", quotedField rule), ("error", err.message)]

/-- Applies one rule if it is meant for the statement, adding its name to those
applied; a failure it reports is also logged. -/
def applyRule (acc : Statement × List String) (r : Rule) :
    Logged (Except RewriteError (Statement × List String)) :=
  if !r.accepts acc.1 then pure (.ok acc)
  else do
    let out ← r.apply acc.1
    match out with
    | .ok s => pure (.ok (s, acc.2 ++ [r.name]))
    | .error (.error err) => ⟨[ruleFailed r.name err], .error err⟩
    | .error (.abort m) => pure (.error (abortError r.name m))

/-- Applies the rules meant for a statement, in order; gives the statement and the
names of the rules applied, or the first failure. -/
def applyRulesLogged (rules : List Rule) (s : Statement) :
    Logged (Except RewriteError (Statement × List String)) :=
  (rules.foldlM (fun acc r => ExceptT.mk (applyRule acc r)) (s, [])).run

/-- Applies the rules meant for a statement, in order; returns the statement and the
names of the rules applied, or the first failure. -/
def applyRules (rules : List Rule) (s : Statement) : Except RewriteError (Statement × List String) :=
  (applyRulesLogged rules s).result

/-- The event for a statement that cannot be read. -/
def unreadable (err : RewriteError) : Event where
  level := .warn
  target := engineTarget
  message := "Cannot parse SQL, leaving it unchanged"
  fields := [("error", err.message)]

/-- The event for a rewrite stopped by a failure. -/
def rewriteFailed (err : RewriteError) : Event where
  level := .error
  target := engineTarget
  message := "Rewrite failed, returning original SQL"
  fields := [("elapsed_ms", "0"), ("error", err.message)]

/-- The event for rules that left the statement as it was. -/
def unchanged : Event where
  level := .debug
  target := engineTarget
  message := "Rules left SQL unchanged"
  fields := [("elapsed_ms", "0")]

/-- The event for a statement rewritten to `after` by `count` rules. -/
def rewrote (count : Nat) (after : String) : Event where
  level := .debug
  target := engineTarget
  message := "Rewrote SQL"
  fields := [("elapsed_ms", "0"), ("rules_applied", toString count), ("rewritten", after)]

/-- The event for an engine without rules, which leaves its input alone. -/
def noRules : Event where
  level := .trace
  target := engineTarget
  message := "No rewrite rules configured"

/-- Reads a statement, applies the rules, and reports what changed, with the events
written on the way. -/
def rewriteLogged (e : Engine) (sql : String) : Logged (Except RewriteError Report) :=
  match parseStatement e.dialect sql with
  | .error err => ⟨[unreadable err], .error err⟩
  | .ok stmt => do
    let before := stmt.render
    let out ← applyRulesLogged e.rules stmt
    match out with
    | .error err => ⟨[rewriteFailed err], .error err⟩
    | .ok (stmt, applied) =>
      let after := stmt.render
      if after == before then ⟨[unchanged], .ok ⟨sql, sql, false, applied⟩⟩
      else ⟨[rewrote applied.length after], .ok ⟨sql, after, true, applied⟩⟩

/-- Reads a statement, applies the rules, and reports what changed. -/
def rewrite (e : Engine) (sql : String) : Except RewriteError Report :=
  (e.rewriteLogged sql).result

/-- The rewritten text, or the input itself when there are no rules or the rewrite
fails, with the events written on the way. -/
def runLogged (e : Engine) (sql : String) : Logged String :=
  if e.rules.isEmpty then ⟨[noRules], sql⟩
  else do
    let r ← e.rewriteLogged sql
    pure (match r with
      | .ok r => r.rewritten
      | .error _ => sql)

/-- The rewritten text, or the input itself when there are no rules or the rewrite
fails. -/
def run (e : Engine) (sql : String) : String := (e.runLogged sql).result

end Engine

end SqlScope.Scope
