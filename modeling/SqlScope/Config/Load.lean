import SqlScope.Config.Model
import SqlScope.Yaml.Decoder

/-!
# Reading a rules file

A rules file is one YAML document: a mapping with the keys `dialect`, `logging`
and `rules`, each optional and each at most once; any other key is refused.

Each entry of `rules` is a mapping whose `kind` names the rule (`add_condition`,
`add_column` or `combined`); the other keys of the entry are gathered as plain
nodes first and only then read as the fields of that kind of rule. So a mistake in
those fields is reported for the whole `rules` list rather than at the field, and
unknown fields of a rule are ignored. An entry may also be a sequence whose first
element is the kind and whose other elements are the fields in order.

A rule's value keeps the type it was written with: null, a boolean, a 64-bit
integer, a float (a larger whole number becomes a float) or text.
-/

namespace SqlScope.Config

open SqlScope.Yaml SqlScope.Sql SqlScope.Scope SqlScope.Number

/-- Why a rules file could not be used: it could not be read, or it was read but
has a problem. -/
inductive ConfigError where
  | yaml (e : DecodeError)
  | invalid (message : String)
  deriving Repr, Inhabited

namespace ConfigError

def kind : ConfigError → String
  | .yaml _ => "Yaml"
  | .invalid _ => "Config"

def message : ConfigError → String
  | .yaml e => "YAML parse error: " ++ e.text
  | .invalid m => "Configuration error: " ++ m

end ConfigError

/-- What a node is, as it is named in a message. -/
def nodeUnexpected : Node → Unexpected
  | .unit => .unit
  | .bool b => .bool b
  | .nat n => .unsigned n
  | .int n => .signed n
  | .float x => .float x
  | .str s => .str s
  | .seq _ => .seq
  | .map _ => .map

/-- The position of a name in a list. -/
def positionOf (names : List String) (s : String) : Option Nat :=
  (names.zipIdx.find? (·.1 == s)).map (·.2)

/-- The field a key names: by name, or by position; `none` for a key that names
no field and is ignored. -/
def fieldIndex (fields : List String) (k : Node) : Except String (Option Nat) :=
  match k with
  | .str s => .ok (positionOf fields s)
  | .nat n => .ok (if n < fields.length then some n else none)
  | k => .error (invalidType (nodeUnexpected k) "field identifier")

/-- The variant a name picks among `names`. -/
def lookupVariant (names : List String) (s : String) : Except String Nat :=
  match positionOf names s with
  | some i => .ok i
  | none => .error (unknownVariant s names)

/-- The variant a node picks: by name, or by position. -/
def variantIndex (names : List String) (k : Node) : Except String Nat :=
  match k with
  | .str s => lookupVariant names s
  | .nat n =>
    if n < names.length then .ok n
    else .error (invalidValue (.unsigned n) ("variant index 0 <= i < " ++ toString names.length))
  | k => .error (invalidType (nodeUnexpected k) "variant identifier")

def asText (n : Node) : Except String String :=
  match n with
  | .str s => .ok s
  | n => .error (invalidType (nodeUnexpected n) "a string")

/-- A 32-bit signed integer. -/
def asInt32 (n : Node) : Except String Int :=
  match n with
  | .nat k => if k < Nat.pow 2 31 then .ok k else .error (invalidValue (.unsigned k) "i32")
  | .int k => if -(Int.pow 2 31) ≤ k then .ok k else .error (invalidValue (.signed k) "i32")
  | n => .error (invalidType (nodeUnexpected n) "i32")

/-- An optional 32-bit signed integer; null is none. -/
def asPriority (n : Node) : Except String (Option Int) :=
  match n with
  | .unit => .ok none
  | n => some <$> asInt32 n

/-- A rule value: the first of null, boolean, 64-bit integer, float and text that
the node is. -/
def asRuleValue (n : Node) : Except String RuleValue :=
  match n with
  | .unit => .ok .null
  | .bool b => .ok (.boolean b)
  | .nat k => .ok (if k < Nat.pow 2 63 then .integer k else .float (Binary64.ofInt k))
  | .int k => .ok (.integer k)
  | .float x => .ok (.float x)
  | .str s => .ok (.text s)
  | _ => .error "data did not match any variant of untagged enum RuleValue"

def statementNames : List String := ["select", "update", "delete"]

/-- A statement kind: its name, or a mapping from its name to null. -/
def asStatement (n : Node) : Except String ConditionKind := do
  let (key, value) ← match n with
    | .str s => pure (Node.str s, none)
    | .map [(k, v)] => pure (k, some v)
    | .map _ => throw (invalidValue .map "map with a single key")
    | n => throw (invalidType (nodeUnexpected n) "string or map")
  let i ← variantIndex statementNames key
  match value with
  | none | some .unit => pure ()
  | some v => throw (invalidType (nodeUnexpected v) "unit")
  pure (ConditionKind.all.getD i .select)

/-- Fills a field once; a second value for it is refused before it is read. -/
def setOnce (name : String) (slot : Option α) (value : Except String α) : Except String (Option α) :=
  match slot with
  | some _ => .error (duplicateField name)
  | none => some <$> value

def required (name : String) : Option α → Except String α
  | some a => .ok a
  | none => .error (missingField name)

/-- The element at a position of a struct written as a sequence, which must be
there. -/
def requiredAt (xs : List Node) (i : Nat) (expected : String) : Except String Node :=
  match xs[i]? with
  | some v => .ok v
  | none => .error (invalidLength i expected)

/-- A sequence holding no more elements than a struct has fields. -/
def checkLength (xs : List Node) (fields : Nat) : Except String Unit :=
  if xs.length > fields then
    .error (invalidLength xs.length
      (if fields == 1 then "1 element in sequence" else toString fields ++ " elements in sequence"))
  else .ok ()

/-- The fields of a condition rule read so far. -/
structure ConditionSlots where
  statement : Option ConditionKind := none
  table : Option String := none
  column : Option String := none
  value : Option RuleValue := none
  priority : Option (Option Int) := none

def conditionFields : List String := ["statement", "table", "column", "value", "priority"]

/-- Reads one entry of a condition rule's fields. -/
def ConditionSlots.step (sl : ConditionSlots) (kv : Node × Node) : Except String ConditionSlots := do
  let (k, v) := kv
  match ← fieldIndex conditionFields k with
  | some 0 => pure { sl with statement := ← setOnce "statement" sl.statement (asStatement v) }
  | some 1 => pure { sl with table := ← setOnce "table" sl.table (asText v) }
  | some 2 => pure { sl with column := ← setOnce "column" sl.column (asText v) }
  | some 3 => pure { sl with value := ← setOnce "value" sl.value (asRuleValue v) }
  | some 4 => pure { sl with priority := ← setOnce "priority" sl.priority (asPriority v) }
  | _ => pure sl

/-- A condition rule from its fields, as a mapping or as a sequence. -/
def conditionOf (body : Node) : Except String ConditionDef := do
  match body with
  | .map entries =>
    let sl ← entries.foldlM ConditionSlots.step {}
    let table ← required "table" sl.table
    let column ← required "column" sl.column
    pure { statement := sl.statement.getD .select, table, column,
           value := sl.value.getD .null, priority := sl.priority.getD none }
  | .seq xs =>
    let expected := "struct ConditionRuleDefinition with 5 elements"
    let statement ← match xs[0]? with
      | some v => asStatement v
      | none => pure .select
    let table ← asText (← requiredAt xs 1 expected)
    let column ← asText (← requiredAt xs 2 expected)
    let value ← match xs[3]? with
      | some v => asRuleValue v
      | none => pure .null
    let priority ← match xs[4]? with
      | some v => asPriority v
      | none => pure none
    checkLength xs 5
    pure { statement, table, column, value, priority }
  | n => throw (invalidType (nodeUnexpected n) "struct ConditionRuleDefinition")

/-- The fields of a column rule read so far. -/
structure ColumnSlots where
  table : Option String := none
  column : Option String := none
  value : Option RuleValue := none
  priority : Option (Option Int) := none

def columnFields : List String := ["table", "column", "value", "priority"]

/-- Reads one entry of a column rule's fields. -/
def ColumnSlots.step (sl : ColumnSlots) (kv : Node × Node) : Except String ColumnSlots := do
  let (k, v) := kv
  match ← fieldIndex columnFields k with
  | some 0 => pure { sl with table := ← setOnce "table" sl.table (asText v) }
  | some 1 => pure { sl with column := ← setOnce "column" sl.column (asText v) }
  | some 2 => pure { sl with value := ← setOnce "value" sl.value (asRuleValue v) }
  | some 3 => pure { sl with priority := ← setOnce "priority" sl.priority (asPriority v) }
  | _ => pure sl

/-- A column rule from its fields, as a mapping or as a sequence. -/
def columnOf (body : Node) : Except String ColumnDef := do
  match body with
  | .map entries =>
    let sl ← entries.foldlM ColumnSlots.step {}
    let table ← required "table" sl.table
    let column ← required "column" sl.column
    pure { table, column, value := sl.value.getD .null, priority := sl.priority.getD none }
  | .seq xs =>
    let expected := "struct ColumnRuleDefinition with 4 elements"
    let table ← asText (← requiredAt xs 0 expected)
    let column ← asText (← requiredAt xs 1 expected)
    let value ← match xs[2]? with
      | some v => asRuleValue v
      | none => pure .null
    let priority ← match xs[3]? with
      | some v => asPriority v
      | none => pure none
    checkLength xs 4
    pure { table, column, value, priority }
  | n => throw (invalidType (nodeUnexpected n) "struct ColumnRuleDefinition")

/-- A list of rules, each read with `ruleOf`. -/
def ruleListOf (ruleOf : Node → Except String RuleDef) (n : Node) : Except String (List RuleDef) :=
  match n with
  | .seq items => items.mapM ruleOf
  | n => .error (invalidType (nodeUnexpected n) "a sequence")

/-- A combined rule from its fields, its members read with `ruleOf`. -/
def combinedOf (ruleOf : Node → Except String RuleDef) (body : Node) : Except String RuleDef := do
  match body with
  | .map entries =>
    let step (acc : Option (List RuleDef) × Option (Option Int)) (kv : Node × Node) :
        Except String (Option (List RuleDef) × Option (Option Int)) := do
      let (rules, priority) := acc
      match ← fieldIndex ["rules", "priority"] kv.1 with
      | some 0 => pure (← setOnce "rules" rules (ruleListOf ruleOf kv.2), priority)
      | some 1 => pure (rules, ← setOnce "priority" priority (asPriority kv.2))
      | _ => pure (rules, priority)
    let (rules, priority) ← entries.foldlM step (none, none)
    pure (.combined (rules.getD []) (priority.getD none))
  | .seq xs =>
    let rules ← match xs[0]? with
      | some v => ruleListOf ruleOf v
      | none => pure []
    let priority ← match xs[1]? with
      | some v => asPriority v
      | none => pure none
    checkLength xs 2
    pure (.combined rules priority)
  | n => throw (invalidType (nodeUnexpected n) "struct CombinedRuleDefinition")

def ruleKinds : List String := ["add_condition", "add_column", "combined"]

/-- The rule of a kind, from the fields written with it. -/
def variantOf (ruleOf : Node → Except String RuleDef) (kind : Nat) (body : Node) :
    Except String RuleDef :=
  match kind with
  | 0 => .addCondition <$> conditionOf body
  | 1 => .addColumn <$> columnOf body
  | _ => combinedOf ruleOf body

def taggedExpected : String := "internally tagged enum RuleDefinition"

/-- Separates the `kind` entries from the others: there must be one, naming a
kind of rule. -/
def splitTag (entries : List (Node × Node)) : Except String (Nat × List (Node × Node)) := do
  let step (acc : Option Nat × List (Node × Node)) (kv : Node × Node) :
      Except String (Option Nat × List (Node × Node)) :=
    let (kind, rest) := acc
    if kv.1 == .str "kind" then
      match kind with
      | some _ => .error (duplicateField "kind")
      | none => do
        let i ← variantIndex ruleKinds kv.2
        pure (some i, rest)
    else .ok (kind, kv :: rest)
  let (kind, rest) ← entries.foldlM step (none, [])
  let kind ← required "kind" kind
  pure (kind, rest.reverse)

/-- A rule from a node: a mapping with a `kind` entry, or a sequence starting with
the kind. Groups nest at most `fuel` deep. -/
def ruleOfNode : Nat → Node → Except String RuleDef
  | 0, _ => .error "recursion limit exceeded"
  | fuel + 1, node =>
    match node with
    | .map entries => do
      let (kind, rest) ← splitTag entries
      variantOf (ruleOfNode fuel) kind (.map rest)
    | .seq (x :: rest) => do
      let kind ← variantIndex ruleKinds x
      variantOf (ruleOfNode fuel) kind (.seq rest)
    | .seq [] => .error (missingField "kind")
    | n => .error (invalidType (nodeUnexpected n) taggedExpected)

/-- Reads a mapping key of a rule entry: `none` for the `kind` key, else the key
as a node. -/
def readKindKey (fuel : Nat) : Decode (Option Node) :=
  withNode fun it m =>
    match it with
    | .scalar text style tag =>
      fixAt m <|
        if isVariantTag tag then throw (.custom enumInputMessage)
        else match resolveScalar text style tag false with
          | .error t => throw t.toDecodeError
          | .ok (.str s) => pure (if s == "kind" then none else some (.str s))
          | .ok s => some <$> liftResult (s.toNode "a type tag `kind` or any other value")
    | _ => some <$> nodeFrom fuel it m

def liftMessage (e : Except String α) : Decode α :=
  match e with
  | .ok a => pure a
  | .error msg => throw (.custom msg)

/-- Reads an entry of the rules list as the kind it names and the other fields,
kept as a node. -/
def readTaggedRule (fuel : Nat) : Decode (Nat × Node) :=
  withNode fun it m => fixAt m <|
    match it with
    | .scalar text style tag =>
      if isVariantTag tag then throw (.custom (invalidType .enum taggedExpected))
      else match resolveScalar text style tag false with
        | .error t => throw t.toDecodeError
        | .ok s => throw (.custom (invalidType s.unexpected taggedExpected))
    | .sequenceStart tag =>
      if isVariantTag tag then throw (.custom (invalidType .enum taggedExpected))
      else do
        let (kind, rest) ← sequenceBody m ((none : Option Nat), ([] : List Node))
          fun i (kind, rest) =>
            if i == 0 then do
              let k ← readTextAs "variant identifier" (lookupVariant ruleKinds)
              pure (some k, rest)
            else do
              let v ← readNode fuel
              pure (kind, v :: rest)
        let kind ← liftMessage (required "kind" kind)
        pure (kind, .seq rest.reverse)
    | .mappingStart tag =>
      if isVariantTag tag then throw (.custom (invalidType .enum taggedExpected))
      else do
        let (kind, rest) ← mappingBody m ((none : Option Nat), ([] : List (Node × Node)))
          fun key (kind, rest) => do
            match ← readKindKey fuel with
            | none =>
              match kind with
              | some _ => throw (.custom (duplicateField "kind"))
              | none =>
                let k ← readValue key (readTextAs "variant identifier" (lookupVariant ruleKinds))
                pure (some k, rest)
            | some k =>
              let v ← readValue key (readNode fuel)
              pure (kind, (k, v) :: rest)
        let kind ← liftMessage (required "kind" kind)
        pure (kind, .map rest.reverse)
    | .void => throw (.custom (invalidType .option taggedExpected))
    | _ => throw .endOfStream

/-- Reads the rules list. A rule's fields that do not fit its kind fail the whole
list. -/
def readRules (fuel : Nat) : Decode (List RuleDef) := do
  let rules ← readSequence "a sequence" [] fun _ acc => do
    let (kind, body) ← readTaggedRule fuel
    let r ← liftMessage (variantOf (ruleOfNode fuel) kind body)
    pure (r :: acc)
  pure rules.reverse

/-- Reads a unit variant at the next node, which is not an alias: a scalar naming
it, or a local tag naming it on a null value. A name given by a tag is checked
before the node is read, and a wrong one is not placed at the node. -/
def unitVariantHere (names : List String) : Decode Nat := do
  let (it, m) ← peekItem
  let c ← read
  match it with
  | .scalar text style tag =>
    match tag with
    | some t =>
      if isVariantTag tag then do
        let i ← liftMessage (lookupVariant names (variantOfTag t))
        let _ ← nextItem
        if style == .plain && (text.isEmpty || isNullText text) then pure i
        else throw ((DecodeError.custom (invalidValue (.str text) "null")).fix m c.path)
      else readTextAs "variant identifier" (lookupVariant names)
    | none => readTextAs "variant identifier" (lookupVariant names)
  | .mappingStart tag | .sequenceStart tag =>
    let shape : Unexpected := match it with
      | .mappingStart _ => .map
      | _ => .seq
    match tag with
    | some t =>
      if isVariantTag tag then do
        let _ ← liftMessage (lookupVariant names (variantOfTag t))
        throw ((DecodeError.custom (invalidType shape "unit")).fix m c.path)
      else throw ((DecodeError.custom (invalidType shape "a YAML tag starting with '!'")).fix m c.path)
    | none => throw ((DecodeError.custom (invalidType shape "a YAML tag starting with '!'")).fix m c.path)
  | _ => throw .endOfStream

/-- Reads a unit variant of an enum whose variants are `names`. -/
def readUnitVariant (names : List String) : Decode Nat := do
  let (it, m) ← peekItem
  match it with
  | .aliasRef t =>
    let _ ← nextItem
    fixAt m (jumpTo t (unitVariantHere names))
  | _ => unitVariantHere names

def dialectNames : List String := Dialect.all.map Dialect.name

/-- Reads the `logging` section. -/
def readLogging : Decode LoggingConfig := do
  let level ← readMapping "struct LoggingConfig" (none : Option String) fun key level => do
    readTextAs "field identifier" fun s =>
      if s == "level" then .ok () else .error (unknownField s ["level"])
    match level with
    | some _ => throw (.custom (duplicateField "level"))
    | none => some <$> readValue key (readText "a string")
  pure { level := level.getD "info" }

/-- The sections of a rules file read so far. -/
structure ConfigSlots where
  dialect : Option Dialect := none
  logging : Option LoggingConfig := none
  rules : Option (List RuleDef) := none

def configFields : List String := ["dialect", "logging", "rules"]

/-- Reads a whole rules file. -/
def readConfig : Decode RewriteConfig := do
  let fuel := (← read).fuel
  let sl ← readMapping "struct RewriteConfig" ({} : ConfigSlots) fun key sl => do
    let field ← readTextAs "field identifier" fun s =>
      match positionOf configFields s with
      | some i => .ok i
      | none => .error (unknownField s configFields)
    match field with
    | 0 =>
      if sl.dialect.isSome then throw (.custom (duplicateField "dialect"))
      let i ← readValue key (readUnitVariant dialectNames)
      pure { sl with dialect := some (Dialect.all.getD i .postgres) }
    | 1 =>
      if sl.logging.isSome then throw (.custom (duplicateField "logging"))
      let l ← readValue key readLogging
      pure { sl with logging := some l }
    | _ =>
      if sl.rules.isSome then throw (.custom (duplicateField "rules"))
      let rs ← readValue key (readRules fuel)
      pure { sl with rules := some rs }
  pure { dialect := sl.dialect.getD .postgres, logging := sl.logging.getD {},
         rules := sl.rules.getD [] }

/-- Reads a rules file from its text. -/
def RewriteConfig.fromYaml (text : String) : Except ConfigError RewriteConfig :=
  match decodeText text readConfig with
  | .ok c => .ok c
  | .error e => .error (.yaml e)

/-- The engine rules of a rules file, refused with its first problem. -/
def RewriteConfig.build (c : RewriteConfig) : Except ConfigError (List Rule) :=
  match c.buildRules with
  | .ok rs => .ok rs
  | .error p => .error (.invalid p)

end SqlScope.Config
