import SqlScope.Config.Load
import SqlScope.Config.Schema
import SqlScope.Host
import SqlScope.Text.Unicode

/-!
# Checking a rules file

A check reports findings about a rules file, each an error, a warning or a note,
in this order:

1. what the file fails of the rules-file schema, read as JSON (or why it could
   not be read that way);
2. why it could not be loaded, and then nothing else;
3. the problems of its rules, each at the place of its rule;
4. a warning when it has no rule at all;
5. a warning for each condition that compares with NULL, which matches no row;
6. a warning for each rule that repeats an earlier one, compared by kind,
   statement and the lowercased table and column;
7. when there is no error, a note of how many rules it runs and for which dialect.

The rules of a group are looked at one by one, each at its own place.
`CheckReport.text` writes the findings for a reader: grouped by severity, the worst
first, and by category within a group.
-/

namespace SqlScope.Config

open SqlScope.Yaml SqlScope.Text

/-- How serious a finding is. -/
inductive Severity where
  | info | warning | error
  deriving Repr, BEq, Inhabited

namespace Severity

def label : Severity → String
  | .info => "INFO" | .warning => "WARN" | .error => "ERROR"

end Severity

/-- One finding of a check. -/
structure Finding where
  severity : Severity
  /-- Which check found it. -/
  category : String
  message : String
  /-- Whether it is about the rules file, and so is shown with the file's name. -/
  aboutFile : Bool := true
  /-- Where in the file, such as `rules[2]` or `/rules/0`. -/
  location : Option String := none
  deriving Repr, Inhabited

/-- What the schema check finds in a text. -/
def schemaFindings (text : String) : List Finding :=
  match readJsonText text with
  | .error e => [⟨.error, "json-schema", "Failed to parse YAML: " ++ e.text, true, none⟩]
  | .ok v =>
    (rulesFileSchema.violations v []).map fun e =>
      let p := e.pointer
      ⟨.error, "json-schema", e.message, true, some (if p.isEmpty then "(root)" else p)⟩

/-- A problem `place: message` as an error at that place. -/
def problemFinding (p : String) : Finding :=
  match p.splitOn ": " with
  | place :: first :: rest => ⟨.error, "rules", ": ".intercalate (first :: rest), true, some place⟩
  | _ => ⟨.error, "rules", p, true, none⟩

/-- Every rule that is not a group, with its place; the rules of a group are
taken one level down. -/
def RewriteConfig.leafRules (c : RewriteConfig) : List (String × RuleDef) :=
  c.rules.zipIdx.flatMap fun (r, i) =>
    let place := "rules[" ++ toString i ++ "]"
    match r with
    | .combined rules _ => rules.zipIdx.map fun (s, j) => (place ++ ".rules[" ++ toString j ++ "]", s)
    | other => [(place, other)]

/-- What makes two rules the same: their kind, statement, and lowercased table
and column. A group has no key. -/
def RuleDef.key : RuleDef → Option String
  | .addCondition d =>
    some ("add_condition " ++ d.statement.name ++ " " ++ lowercase d.table ++ "." ++ lowercase d.column)
  | .addColumn d => some ("add_column " ++ lowercase d.table ++ "." ++ lowercase d.column)
  | .combined .. => none

/-- A warning for each condition whose value is null. -/
def nullFindings (leaves : List (String × RuleDef)) : List Finding :=
  leaves.filterMap fun (place, r) =>
    match r with
    | .addCondition d =>
      if d.value == .null then
        some ⟨.warning, "null-condition", "Condition on '" ++ d.table ++ "." ++ d.column ++
          "' compares with NULL and will match no rows", true, some place⟩
      else none
    | _ => none

/-- A warning for each rule whose key an earlier rule already has, naming the
place of the first. -/
def duplicateFindings (leaves : List (String × RuleDef)) : List Finding :=
  let step := fun (acc : List (String × String) × List Finding) (entry : String × RuleDef) =>
    let (seen, found) := acc
    match entry.2.key with
    | none => acc
    | some k =>
      match seen.find? (·.1 == k) with
      | some (_, first) =>
        (seen, found ++ [⟨.warning, "duplicate-rule", "Same rule as " ++ first ++ " (" ++ k ++ ")",
          true, some entry.1⟩])
      | none => (seen ++ [(k, entry.1)], found)
  (leaves.foldl step ([], [])).2

def isError (f : Finding) : Bool := f.severity == .error

/-- The findings about a rules file with this text. -/
def checkText (text : String) : List Finding :=
  let schema := schemaFindings text
  match RewriteConfig.fromYaml text with
  | .error e => schema ++ [⟨.error, "load", e.message, true, none⟩]
  | .ok c =>
    let leaves := c.leafRules
    let empty : List Finding :=
      if c.rules.isEmpty then
        [⟨.warning, "rules", "No rules defined; every statement will pass through unchanged", true, none⟩]
      else []
    let found := schema ++ c.problems.map problemFinding ++ empty ++ nullFindings leaves ++
      duplicateFindings leaves
    if found.any isError then found
    else found ++ [⟨.info, "summary", toString c.leafRuleCount ++ " rule(s) for dialect '" ++
      c.dialect.name ++ "'", false, none⟩]

/-- The findings about a rules file, or about why it could not be read. -/
def checkFile (source : Except FileError String) : List Finding :=
  match source with
  | .error e =>
    [⟨.error, "json-schema", "Failed to read file: " ++ e.text, true, none⟩,
     ⟨.error, "load", "IO error: " ++ e.text, true, none⟩]
  | .ok text => checkText text

/-- The findings of a check. -/
structure CheckReport where
  findings : List Finding
  deriving Repr, Inhabited

namespace CheckReport

def count (r : CheckReport) (s : Severity) : Nat := (r.findings.filter (·.severity == s)).length

def errorCount (r : CheckReport) : Nat := r.count .error

def warningCount (r : CheckReport) : Nat := r.count .warning

def hasErrors (r : CheckReport) : Bool := r.findings.any isError

/-- A rule of sixty copies of a character. -/
def rule (c : Char) : String := String.ofList (List.replicate 60 c)

/-- A finding as a line of the report, with the file's name and its place. -/
def line (file : String) (f : Finding) : String :=
  let icon := match f.severity with
    | .error => "✗" | .warning => "⚠" | .info => "ℹ"
  let place := match f.aboutFile, f.location with
    | true, some l => " [" ++ file ++ ":" ++ l ++ "]"
    | true, none => " [" ++ file ++ "]"
    | false, some l => " [" ++ l ++ "]"
    | false, none => ""
  "  " ++ icon ++ " [" ++ f.category ++ "]" ++ place ++ ": " ++ f.message ++ "\n"

/-- The findings of one severity under a heading, in the order of their
categories; nothing when there are none. -/
def group (r : CheckReport) (file : String) (s : Severity) (heading : String) : String :=
  match r.findings.filter (·.severity == s) with
  | [] => ""
  | fs =>
    let sorted := fs.mergeSort fun a b => decide (a.category ≤ b.category)
    "\n" ++ heading ++ " (" ++ toString fs.length ++ "):\n" ++ rule '─' ++ "\n" ++
      String.join (sorted.map (line file))

/-- The report as the reader sees it: errors, warnings and notes, then the
totals. -/
def text (r : CheckReport) (file : String) : String :=
  let errors := r.errorCount
  let warnings := r.warningCount
  r.group file .error "❌ Errors" ++ r.group file .warning "⚠️  Warnings" ++
    r.group file .info "ℹ️  Info" ++ "\n" ++ rule '═' ++ "\n" ++
    (if errors == 0 && warnings == 0 then "✅ All checks passed!\n"
     else "Summary: " ++ toString errors ++ " error(s), " ++ toString warnings ++ " warning(s)\n" ++
       (if errors > 0 then "\n❌ Rules file has errors that must be fixed.\n" else ""))

end CheckReport

end SqlScope.Config
