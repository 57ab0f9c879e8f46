import SqlScope.Scope.Filter
import SqlScope.Scope.InsertColumn
import SqlScope.Scope.Log

/-!
# Rules

A rule rewrites statements in place. Each has a name, a priority (lower runs
first), a test for the statements it is meant for, and the rewrite itself, which
may fail. Most rules are written for one kind of statement (a typed rule): they
take the default priority of that kind unless given one, and leave statements of
other kinds alone.

The two built-in typed rules scope statements to a tenant: a condition rule adds
`table.column = value` wherever a `SELECT`, `UPDATE` or `DELETE` reads the table,
and a column rule adds the column and its value to every `INSERT` into the table.
A combined rule runs a group of typed rules, sorted by priority, as one rule.

Applying a rule also gives the log events it wrote, in order, whether it succeeded
or not: a condition rule writes a trace event for each table reference it binds
the condition to, and a debug event when it bound any and succeeded; a column rule
writes a debug event when it added the column.
-/

namespace SqlScope.Scope

open SqlScope.Sql

/-- How applying a rule can go wrong: a reported failure, or an abnormal stop that
may leave a message. -/
inductive RuleFailure where
  | error (e : RewriteError)
  | abort (message : Option String)
  deriving Repr, BEq, Inhabited

/-- The priority of a typed rule for statements of a kind, unless it chooses one:
selects first, then inserts, updates and deletes; rules for other statements, and
rules with no kind, last. -/
def defaultPriority : StatementKind → Int
  | .select => 10
  | .insert => 20
  | .update => 30
  | .delete => 40
  | .other => 100

/-- The priority of rules that do not choose one. -/
def basePriority : Int := 100

/-- A rule written for one kind of statement. -/
structure TypedRule where
  name : String
  kind : StatementKind
  /-- The table the rule rewrites, when it is limited to one. -/
  target : Option String
  /-- The priority chosen for the rule, if any. -/
  chosenPriority : Option Int
  /-- Rewrites a statement taken to be of the rule's kind. -/
  applyTyped : Statement → Logged (Except RuleFailure Statement)

namespace TypedRule

def priority (r : TypedRule) : Int := r.chosenPriority.getD (defaultPriority r.kind)

/-- Whether the rule is meant for a statement: it is of the rule's kind. -/
def accepts (r : TypedRule) (s : Statement) : Bool := s.kind == r.kind

/-- Applies the rule to a statement of its kind; others are left as they are. -/
def apply (r : TypedRule) (s : Statement) : Logged (Except RuleFailure Statement) :=
  if r.accepts s then r.applyTyped s else pure (.ok s)

/-- A typed rule that fails on every statement it is applied to. -/
def failing (name : String) (kind : StatementKind) (failure : RuleFailure) : TypedRule :=
  ⟨name, kind, none, none, fun _ => pure (.error failure)⟩

end TypedRule

/-- The statement kinds a condition rule can be written for. -/
inductive ConditionKind where
  | select | update | delete
  deriving Repr, BEq, DecidableEq, Inhabited

namespace ConditionKind

def toStatementKind : ConditionKind → StatementKind
  | .select => .select
  | .update => .update
  | .delete => .delete

def all : List ConditionKind := [.select, .update, .delete]

def name (k : ConditionKind) : String := k.toStatementKind.name

/-- The name of the condition rule for this kind of statement. -/
def ruleName : ConditionKind → String
  | .select => "AddConditionSelectRule"
  | .update => "AddConditionUpdateRule"
  | .delete => "AddConditionDeleteRule"

end ConditionKind

/-- Adds a condition on a table to every statement of one kind that reads it. -/
structure ConditionRule where
  kind : ConditionKind
  filter : Filter
  priority : Option Int := none
  deriving Repr, Inhabited

namespace ConditionRule

/-- The rule for a configured table, column and value. The condition names the
table by the last part of its name, since that is how a query refers to it. -/
def new (kind : ConditionKind) (table column : String) (value : Literal) : ConditionRule :=
  let unqualified := (splitQualified table).getLast?.getD table
  { kind, filter := ⟨TableTarget.ofString table, Condition.ofNames unqualified column value⟩ }

/-- The same rule with a chosen priority. -/
def withPriority (r : ConditionRule) (p : Int) : ConditionRule := { r with priority := some p }

/-- The event for binding the condition to the table reference known as `q`. -/
def bindingEvent (r : ConditionRule) (q : Ident) : Event where
  level := .trace
  target := bindingTarget
  message := "Binding condition to table reference"
  fields := [("table", r.filter.target.raw), ("qualifier", q.render)]

/-- The event for a statement scoped at `sites` table references. -/
def injectedEvent (r : ConditionRule) (sites : Nat) : Event where
  level := .debug
  target := ruleTarget
  message := "Injected condition"
  fields := [("table", r.filter.target.raw), ("column", r.filter.condition.column.render),
    ("sites", toString sites)]

/-- The rule as a typed rule. It scopes the statement it is given whatever its kind,
as long as the statement reads tables. -/
def toTyped (r : ConditionRule) : TypedRule where
  name := r.kind.ruleName
  kind := r.kind.toStatementKind
  target := some r.filter.target.raw
  chosenPriority := r.priority
  applyTyped s :=
    let (bound, result) := r.filter.scope s
    let binding := bound.map r.bindingEvent
    match result with
    | .ok s => ⟨binding ++ (if bound.isEmpty then [] else [r.injectedEvent bound.length]), .ok s⟩
    | .error e => ⟨binding, .error (.error e)⟩

end ConditionRule

/-- Adds a column and its value to every insert into a table. -/
structure ColumnRule where
  fill : ColumnFill
  priority : Option Int := none
  deriving Repr, Inhabited

namespace ColumnRule

/-- The rule for a configured table, column and value. -/
def new (table column : String) (value : Literal) : ColumnRule :=
  { fill := ⟨TableTarget.ofString table, identOfName column, value⟩ }

def withPriority (r : ColumnRule) (p : Int) : ColumnRule := { r with priority := some p }

/-- The event for an insert the column was added to. -/
def injectedEvent (r : ColumnRule) : Event where
  level := .debug
  target := ruleTarget
  message := "Injected insert column"
  fields := [("table", r.fill.target.raw), ("column", r.fill.column.render)]

def toTyped (r : ColumnRule) : TypedRule where
  name := "AddColumnInsertRule"
  kind := .insert
  target := some r.fill.target.raw
  chosenPriority := r.priority
  applyTyped
    | .insert i =>
      match r.fill.apply i with
      | .ok (some i) => ⟨[r.injectedEvent], .ok (.insert i)⟩
      | .ok none => pure (.ok (.insert i))
      | .error e => pure (.error (.error e))
    | s => pure (.ok s)

end ColumnRule

/-- A rule as the engine runs it. -/
structure Rule where
  name : String
  priority : Int
  /-- Whether the rule is meant for a statement. -/
  accepts : Statement → Bool
  apply : Statement → Logged (Except RuleFailure Statement)

/-- Sorts by priority, keeping the given order among equal priorities. -/
def sortByPriority (prio : α → Int) (xs : List α) : List α :=
  xs.mergeSort (fun a b => decide (prio a ≤ prio b))

namespace Rule

def ofTyped (r : TypedRule) : Rule := ⟨r.name, r.priority, r.accepts, r.apply⟩

/-- The typed rules of a combined rule, in the order it applies them. -/
def combinedOrder (rules : List TypedRule) : List TypedRule := sortByPriority TypedRule.priority rules

/-- A group of typed rules run as one: it is meant for a statement when one of them
is, and applying it applies each in turn, sorted by priority. -/
def combined (rules : List TypedRule) (priority : Option Int) : Rule where
  name := "CombinedRule"
  priority := priority.getD basePriority
  accepts s := rules.any (·.accepts s)
  apply s := ((combinedOrder rules).foldlM (fun s r => ExceptT.mk (r.apply s)) s).run

/-- A rule meant for the statements of one kind, or of every kind, that fails on
each of them. -/
def failing (name : String) (priority : Int) (only : Option StatementKind) (failure : RuleFailure) : Rule where
  name := name
  priority := priority
  accepts s := match only with
    | some k => s.kind == k
    | none => true
  apply _ := pure (.error failure)

end Rule

end SqlScope.Scope
