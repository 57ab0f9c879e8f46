/-!
# Why a rewrite fails

Every way in which reading a statement or applying a rule can fail, with the
message each one is reported with.
-/

namespace SqlScope.Scope

/-- Why a statement could not be read or rewritten. -/
inductive RewriteError where
  /-- The text is empty once its whitespace is normalized. -/
  | blankInput
  /-- The SQL does not parse; `sql` is the normalized text. -/
  | parse (sql : String) (message : String)
  /-- The text holds no statement, only separators. -/
  | emptyStatement
  /-- The text holds more than one statement. -/
  | multipleStatements (count : Nat)
  /-- An insert into a scoped table has no `VALUES` list. -/
  | missingInsertSource (table : String)
  /-- An insert into a scoped table takes its rows from a query. -/
  | unsupportedInsertSource (table : String) (sourceKind : String)
  /-- The `VALUES` list of an insert cannot take one more value. -/
  | unsupportedValuesShape (table : String) (reason : String)
  /-- A scoped table is joined in a way that leaves no place for its condition. -/
  | unsupportedJoin (table : String) (operator : String)
  /-- A rule stopped abnormally. -/
  | rulePanicked (rule : String) (message : String)
  /-- A rule reported a failure. -/
  | rule (message : String)
  deriving Repr, BEq, Inhabited

/-- The message a failure is reported with. -/
def RewriteError.message : RewriteError → String
  | .blankInput => "SQL is blank"
  | .parse sql m => "failed to parse SQL `" ++ sql ++ "`: " ++ m
  | .emptyStatement => "SQL contains no statement"
  | .multipleStatements n => "expected a single statement, found " ++ toString n
  | .missingInsertSource t => "insert into " ++ t ++ " has no VALUES list"
  | .unsupportedInsertSource t k => "insert into " ++ t ++ " uses an unsupported source: " ++ k
  | .unsupportedValuesShape t r => "cannot add a value to insert into " ++ t ++ ": " ++ r
  | .unsupportedJoin t o => "cannot scope " ++ t ++ " joined with " ++ o
  | .rulePanicked r m => "rule " ++ r ++ " panicked: " ++ m
  | .rule m => "rule failed: " ++ m

/-- The name of the kind of failure. -/
def RewriteError.kind : RewriteError → String
  | .blankInput => "BlankInput"
  | .parse .. => "Parse"
  | .emptyStatement => "EmptyStatement"
  | .multipleStatements _ => "MultipleStatements"
  | .missingInsertSource _ => "MissingInsertSource"
  | .unsupportedInsertSource .. => "UnsupportedInsertSource"
  | .unsupportedValuesShape .. => "UnsupportedValuesShape"
  | .unsupportedJoin .. => "UnsupportedJoin"
  | .rulePanicked .. => "RulePanicked"
  | .rule _ => "Rule"

end SqlScope.Scope
