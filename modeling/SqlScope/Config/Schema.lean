import SqlScope.Schema

/-!
# The schema of a rules file

A rules file is an object with the optional keys `dialect` (one of six names),
`logging` (an object whose `level` is a nonempty string) and `rules` (an array of
rules). A rule is exactly one of a condition rule, a column rule or a group of
such rules, each an object with a constant `kind`, its required keys and no other
key. Each schema object lists its assertions in the order of their keyword names,
with `additionalProperties: false` and `properties` read as one closed
`properties` assertion.
-/

namespace SqlScope.Config

/-- A priority: an integer or null. -/
def prioritySchema : Schema := .type [.integer, .null]

/-- A rule's value: any JSON scalar. -/
def valueSchema : Schema := .type [.string, .integer, .number, .boolean, .null]

/-- A table or column name: a nonempty string. -/
def nameSchema : Schema := .all [.minLength 1, .type [.string]]

/-- A rule adding a condition. -/
def conditionSchema : Schema := .all [
  .properties [
    ("kind", .const (.string "add_condition")),
    ("statement", .all [.enum [.string "select", .string "update", .string "delete"], .type [.string]]),
    ("table", nameSchema),
    ("column", nameSchema),
    ("value", valueSchema),
    ("priority", prioritySchema)] true,
  .required ["kind", "table", "column"],
  .type [.object]]

/-- A rule adding a column. -/
def columnSchema : Schema := .all [
  .properties [
    ("kind", .const (.string "add_column")),
    ("table", nameSchema),
    ("column", nameSchema),
    ("value", valueSchema),
    ("priority", prioritySchema)] true,
  .required ["kind", "table", "column"],
  .type [.object]]

/-- A group of at least one condition or column rule. -/
def combinedSchema : Schema := .all [
  .properties [
    ("kind", .const (.string "combined")),
    ("rules", .all [.items (.oneOf [conditionSchema, columnSchema]), .minItems 1, .type [.array]]),
    ("priority", prioritySchema)] true,
  .required ["kind", "rules"],
  .type [.object]]

/-- An entry of the rules list. -/
def ruleSchema : Schema := .oneOf [conditionSchema, columnSchema, combinedSchema]

/-- A whole rules file. -/
def rulesFileSchema : Schema := .all [
  .properties [
    ("dialect", .all [
      .enum ([ "generic", "postgres", "mysql", "sqlite", "mssql", "ansi"].map Json.string),
      .type [.string]]),
    ("logging", .all [
      .properties [("level", .all [.minLength 1, .type [.string]])] true,
      .type [.object]]),
    ("rules", .all [.items ruleSchema, .type [.array]])] true,
  .type [.object]]

end SqlScope.Config
