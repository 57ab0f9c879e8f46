import SqlScope.Sql.Parser.Statement
import SqlScope.Scope.Error

/-!
# Statements from SQL text

Rules work on one statement at a time. Its text is first normalized: it is cut at
spaces, tabs, carriage returns and line feeds, inside quoted literals too, and
the non-empty pieces are joined with single spaces. The normalized text must then
parse as exactly one statement.
-/

namespace SqlScope.Scope

open SqlScope.Sql

/-- The characters at which `normalize` cuts. -/
def isBreak (c : Char) : Bool := c == ' ' || c == '\t' || c == '\r' || c == '\n'

/-- The pieces of text between breaks, empty pieces dropped. -/
def words (s : String) : List String :=
  ((s.toList.splitBy (fun a b => !isBreak a && !isBreak b)).filter (fun w => !w.any isBreak)).map String.ofList

/-- The text with every run of breaks turned into one space and none at either end. -/
def normalize (s : String) : String := " ".intercalate (words s)

/-- All statements of a text, which is parsed as it is. -/
def parseStatements (d : Dialect) (sql : String) : Except RewriteError (List Statement) :=
  match parseSql d sql with
  | .ok stmts => .ok stmts
  | .error e => .error (.parse sql e.text)

/-- The single statement of a text, after normalization. -/
def parseStatement (d : Dialect) (sql : String) : Except RewriteError Statement := do
  let text := normalize sql
  if text.isEmpty then throw .blankInput
  match ← parseStatements d text with
  | [] => throw .emptyStatement
  | [s] => return s
  | ss => throw (.multipleStatements ss.length)

end SqlScope.Scope
