import SqlScope.Sql.Syntax

/-!
# Printing SQL

The canonical text of a syntax tree: keywords in capitals, one space between
tokens, commas followed by a space, and parentheses exactly where the tree has
a nested expression, a subquery or a join group. Nothing is added that the tree
does not hold, so `(a OR b) AND c` comes back with its parentheses only because
the tree keeps the nested `a OR b`.

Quoted text follows one rule (`escapeQuoted`): a quote character inside the
text is written twice, unless it already is doubled or follows a backslash.
Text that came from a parse therefore prints as it was read, and text from a
rule gets its quotes doubled once.
-/

namespace SqlScope.Sql

/-- Doubles each quote character `q` of the text that stands alone; a quote that
is already doubled, or that follows a backslash, is kept as it is. -/
def escapeQuotedChars (q : Char) : List Char → Char → List Char
  | [], _ => []
  | [c], prev => if c = q ∧ prev ≠ '\\' then [c, c] else [c]
  | c :: d :: rest, prev =>
    if c = q then
      if prev = '\\' then c :: escapeQuotedChars q (d :: rest) prev
      else if d = q then c :: d :: escapeQuotedChars q rest c
      else c :: c :: escapeQuotedChars q (d :: rest) c
    else c :: escapeQuotedChars q (d :: rest) c

/-- The text of `s` as it stands between two quote characters `q`. -/
def escapeQuoted (q : Char) (s : String) : String :=
  String.ofList (escapeQuotedChars q s.toList (Char.ofNat 0))

/-- A name with its quotes. A bracket-quoted name is written between `[` and `]`
without any escaping. -/
def Ident.render (i : Ident) : String :=
  match i.quote with
  | none => i.value
  | some '[' => "[" ++ i.value ++ "]"
  | some q => q.toString ++ escapeQuoted q i.value ++ q.toString

def renderIdents (ids : List Ident) : String := ".".intercalate (ids.map Ident.render)

/-- The text of an `E'...'` string between its quotes: a quote, a backslash, and
the line feed, tab and carriage return are written as backslash escapes. -/
def escapeEscaped (s : String) : String :=
  String.join (s.toList.map fun c =>
    match c with
    | '\'' => "\\'"
    | '\\' => "\\\\"
    | '\n' => "\\n"
    | '\t' => "\\t"
    | '\r' => "\\r"
    | c => c.toString)

/-- Upper-case hexadecimal digits of `n`, padded with zeros to `width`. -/
def upperHex (width n : Nat) : String :=
  let ds := (Nat.toDigits 16 n).map Char.toUpper
  String.ofList (List.replicate (width - ds.length) '0' ++ ds)

/-- The body of a `U&'...'` string: quotes doubled, backslashes doubled, ASCII kept,
and every other character as a `\XXXX` or `\+XXXXXX` escape. -/
def escapeUnicode (s : String) : String :=
  String.join (s.toList.map fun c =>
    if c == '\'' then "''"
    else if c == '\\' then "\\\\"
    else if c.toNat < 128 then c.toString
    else if c.toNat ≤ 0xFFFF then "\\" ++ upperHex 4 c.toNat
    else "\\+" ++ upperHex 6 c.toNat)

def Name.render (n : Name) : String := renderIdents n.parts

def commaList (xs : List String) : String := ", ".intercalate xs

def Value.render : Value → String
  | .number t => t
  | .singleQuoted s => "'" ++ escapeQuoted '\'' s ++ "'"
  | .doubleQuoted s => "\"" ++ escapeQuoted '"' s ++ "\""
  | .national s => "N'" ++ escapeQuoted '\'' s ++ "'"
  | .escaped s => "E'" ++ escapeEscaped s ++ "'"
  | .hex s => "X'" ++ s ++ "'"
  | .byteString s => "B'" ++ s ++ "'"
  | .unicode s => "U&'" ++ escapeUnicode s ++ "'"
  | .dollarQuoted none s => "$$" ++ s ++ "$$"
  | .dollarQuoted (some t) s => "$" ++ t ++ "$" ++ s ++ "$" ++ t ++ "$"
  | .boolean true => "true"
  | .boolean false => "false"
  | .null => "NULL"
  | .placeholder t => t

def BinOp.symbol : BinOp → String
  | .plus => "+" | .minus => "-" | .mul => "*" | .div => "/" | .modulo => "%"
  | .concat => "||" | .gt => ">" | .lt => "<" | .ge => ">=" | .le => "<="
  | .eq => "=" | .neq => "<>" | .and => "AND" | .or => "OR" | .xor => "XOR"
  | .other t => t

def UnaryOp.symbol : UnaryOp → String
  | .not => "NOT" | .minus => "-" | .plus => "+" | .factorial => "!" | .other t => t
  | .spaced t => t

def IsTest.text : IsTest → String
  | .null => "IS NULL" | .notNull => "IS NOT NULL" | .true_ => "IS TRUE"
  | .notTrue => "IS NOT TRUE" | .false_ => "IS FALSE" | .notFalse => "IS NOT FALSE"
  | .unknown => "IS UNKNOWN" | .notUnknown => "IS NOT UNKNOWN"
  | .normalized negated form =>
    "IS " ++ (if negated then "NOT " else "") ++ (match form with | some f => f ++ " " | none => "") ++
      "NORMALIZED"

def LikeKind.text : LikeKind → String
  | .like => "LIKE" | .ilike => "ILIKE" | .similarTo => "SIMILAR TO" | .regexp => "REGEXP"
  | .rlike => "RLIKE"

def Quantifier.text : Quantifier → String
  | .any => "ANY" | .all => "ALL" | .some => "SOME"

def ArgOperator.text : ArgOperator → String
  | .equals => "=" | .rightArrow => "=>" | .assignment => ":=" | .colon => ":"

def SetOperator.text : SetOperator → String
  | .union => "UNION" | .except => "EXCEPT" | .intersect => "INTERSECT" | .minus => "MINUS"

def SetQuantifier.text : SetQuantifier → String
  | .none => "" | .all => "ALL" | .distinct => "DISTINCT" | .byName => "BY NAME"
  | .allByName => "ALL BY NAME" | .distinctByName => "DISTINCT BY NAME"

/-- The keywords of a join kind, without the `NATURAL` that a natural join adds. -/
def JoinKind.text : JoinKind → String
  | .plain => "JOIN" | .inner => "INNER JOIN" | .left => "LEFT JOIN"
  | .leftOuter => "LEFT OUTER JOIN" | .right => "RIGHT JOIN"
  | .rightOuter => "RIGHT OUTER JOIN" | .fullOuter => "FULL JOIN" | .cross => "CROSS JOIN"
  | .semi => "SEMI JOIN" | .leftSemi => "LEFT SEMI JOIN" | .rightSemi => "RIGHT SEMI JOIN"
  | .anti => "ANTI JOIN" | .leftAnti => "LEFT ANTI JOIN" | .rightAnti => "RIGHT ANTI JOIN"
  | .straight => "STRAIGHT_JOIN"

/-- Only plain, inner and outer joins take a `NATURAL` prefix. -/
def JoinKind.takesNatural : JoinKind → Bool
  | .cross | .straight => false
  | _ => true

def TableAlias.render (a : TableAlias) : String :=
  let cols := a.columns.map fun c =>
    match c.type with
    | none => c.name.render
    | some t => c.name.render ++ " " ++ t.text
  (if a.explicit then "AS " else "") ++ a.name.render ++
    (if cols.isEmpty then "" else " (" ++ commaList cols ++ ")")

def LockClause.render (l : LockClause) : String :=
  (if l.share then "FOR SHARE" else "FOR UPDATE") ++
    (match l.of with | some n => " OF " ++ n.render | none => "") ++
    (match l.wait with | some w => " " ++ w | none => "")

/-- `FETCH FIRST n ROWS ONLY`, always written with `FIRST` and `ROWS`. -/
def Fetch.render (f : Fetch) : String :=
  let ending := if f.withTies then "WITH TIES" else "ONLY"
  match f.quantity with
  | some q => "FETCH FIRST " ++ q.render ++ (if f.percent then " PERCENT" else "") ++ " ROWS " ++ ending
  | none => "FETCH FIRST ROWS " ++ ending

/-- `FORCE INDEX FOR JOIN (a, b)`. -/
def IndexHint.render (h : IndexHint) : String :=
  h.kind ++ " " ++ h.keyword ++ " " ++
    (match h.forClause with | some c => "FOR " ++ c ++ " " | none => "") ++
    "(" ++ commaList (h.names.map Ident.render) ++ ")"

/-- `INTO [TEMPORARY] [UNLOGGED] [TABLE] name`. -/
def SelectInto.render (i : SelectInto) : String :=
  "INTO" ++ (if i.temporary then " TEMPORARY" else "") ++ (if i.unlogged then " UNLOGGED" else "") ++
    (if i.tableKeyword then " TABLE" else "") ++ " " ++ i.name.render

def NullTreatment.text : NullTreatment → String
  | .ignore => "IGNORE NULLS"
  | .respect => "RESPECT NULLS"

def optionalAlias : Option TableAlias → String
  | some a => " " ++ a.render
  | none => ""

mutual

def Expr.render : Expr → String
  | .ident i => i.render
  | .compound ps => renderIdents ps
  | .wildcard => "*"
  | .qualifiedWildcard ps => renderIdents ps ++ ".*"
  | .value v => v.render
  | .typedString t v => t.text ++ " " ++ v.render
  | .binary l op r => l.render ++ " " ++ op.symbol ++ " " ++ r.render
  | .unary .not e => "NOT " ++ e.render
  | .unary .factorial e => e.render ++ "!"
  | .unary (.spaced s) e => s ++ " " ++ e.render
  | .unary op e => op.symbol ++ e.render
  | .nested e => "(" ++ e.render ++ ")"
  | .isTest e t => e.render ++ " " ++ t.text
  | .isDistinctFrom l n r =>
    l.render ++ (if n then " IS NOT DISTINCT FROM " else " IS DISTINCT FROM ") ++ r.render
  | .inList e n items =>
    e.render ++ (if n then " NOT IN (" else " IN (") ++ commaList (items.map fun x => x.render) ++ ")"
  | .inSubquery e n q => e.render ++ (if n then " NOT IN (" else " IN (") ++ q.render ++ ")"
  | .between e n lo hi =>
    e.render ++ (if n then " NOT BETWEEN " else " BETWEEN ") ++ lo.render ++ " AND " ++ hi.render
  | .like e n k any p esc =>
    e.render ++ (if n then " NOT " else " ") ++ k.text ++ (if any then " ANY " else " ") ++ p.render ++
      (match esc with | some v => " ESCAPE " ++ v.render | none => "")
  | .call name args withinGroup filter nullTreatment window =>
    name.render ++ args.render ++
      (if withinGroup.isEmpty then ""
       else " WITHIN GROUP (ORDER BY " ++ commaList (withinGroup.map fun o => o.render) ++ ")") ++
      (match filter with | some f => " FILTER (WHERE " ++ f.render ++ ")" | none => "") ++
      (match nullTreatment with | some t => " " ++ t.text | none => "") ++
      (match window with | some w => " OVER " ++ w.render | none => "")
  | .cast .cast e t => "CAST(" ++ e.render ++ " AS " ++ t.text ++ ")"
  | .cast .tryCast e t => "TRY_CAST(" ++ e.render ++ " AS " ++ t.text ++ ")"
  | .cast .safeCast e t => "SAFE_CAST(" ++ e.render ++ " AS " ++ t.text ++ ")"
  | .cast .doubleColon e t => e.render ++ "::" ++ t.text
  | .exists n q => (if n then "NOT EXISTS (" else "EXISTS (") ++ q.render ++ ")"
  | .subquery q => "(" ++ q.render ++ ")"
  | .quantified l op qu r =>
    l.render ++ " " ++ op.symbol ++ " " ++ qu.text ++
      (match r with
       | .subquery q => "(" ++ q.render ++ ")"
       | r => "(" ++ r.render ++ ")")
  | .case operand whens otherwise =>
    "CASE" ++ (match operand with | some o => " " ++ o.render | none => "") ++
      String.join (whens.map fun w => " " ++ w.render) ++
      (match otherwise with | some o => " ELSE " ++ o.render | none => "") ++ " END"
  | .array named elems =>
    (if named then "ARRAY[" else "[") ++ commaList (elems.map fun x => x.render) ++ "]"
  | .tuple elems => "(" ++ commaList (elems.map fun x => x.render) ++ ")"
  | .interval e unit =>
    "INTERVAL " ++ e.render ++ (match unit with | some u => " " ++ u | none => "")
  | .extract field comma e =>
    "EXTRACT(" ++ field ++ (if comma then ", " else " FROM ") ++ e.render ++ ")"
  | .collate e c => e.render ++ " COLLATE " ++ c.render
  | .atTimeZone e z => e.render ++ " AT TIME ZONE " ++ z.render
  | .position e w => "POSITION(" ++ e.render ++ " IN " ++ w.render ++ ")"
  | .substring e s l comma short =>
    (if short then "SUBSTR(" else "SUBSTRING(") ++ e.render ++
      (match s with | some x => (if comma then ", " else " FROM ") ++ x.render | none => "") ++
      (match l with | some x => (if comma then ", " else " FOR ") ++ x.render | none => "") ++ ")"
  | .trim w what e chars =>
    "TRIM(" ++ (match w with | some x => x ++ " " | none => "") ++
      (match what with | some x => x.render ++ " FROM " | none => "") ++ e.render ++
      (if chars.isEmpty then "" else ", " ++ commaList (chars.map fun x => x.render)) ++ ")"
  | .ceilFloor c e suffix => (if c then "CEIL(" else "FLOOR(") ++ e.render ++ suffix ++ ")"
  | .fieldAccess root chain => root.render ++ String.join (chain.map fun a => a.render)
  | .introduced charset value => charset.render ++ " " ++ value.render
  | .memberOf v a => v.render ++ " MEMBER OF(" ++ a.render ++ ")"
  | .convert isTry e ty charset typeFirst styles =>
    (if isTry then "TRY_CONVERT(" else "CONVERT(") ++
      (match ty, charset with
       | some t, some cs => e.render ++ ", " ++ t.text ++ " CHARACTER SET " ++ cs.render
       | some t, none => if typeFirst then t.text ++ ", " ++ e.render else e.render ++ ", " ++ t.text
       | none, some cs => e.render ++ " USING " ++ cs.render
       | none, none => e.render) ++
      (if styles.isEmpty then "" else ", " ++ commaList (styles.map fun s => s.render)) ++ ")"
  | .overlay e what start len =>
    "OVERLAY(" ++ e.render ++ " PLACING " ++ what.render ++ " FROM " ++ start.render ++
      (match len with | some l => " FOR " ++ l.render | none => "") ++ ")"
  | .matchAgainst columns value modifier =>
    "MATCH (" ++ commaList (columns.map Name.render) ++ ") AGAINST (" ++ value.render ++
      (match modifier with | some m => " " ++ m | none => "") ++ ")"
  | .groupingSets sets => "GROUPING SETS (" ++ commaList (sets.map fun s => s.render) ++ ")"
  | .cube sets => "CUBE (" ++ commaList (sets.map fun s => s.renderLifted) ++ ")"
  | .rollup sets => "ROLLUP (" ++ commaList (sets.map fun s => s.renderLifted) ++ ")"
termination_by x => sizeOf x
decreasing_by
  all_goals
    (try have := List.sizeOf_lt_of_mem ‹_ ∈ _›)
    (try simp only [Expr.binary.sizeOf_spec, Expr.unary.sizeOf_spec, Expr.nested.sizeOf_spec,
      Expr.isTest.sizeOf_spec, Expr.isDistinctFrom.sizeOf_spec, Expr.inList.sizeOf_spec,
      Expr.inSubquery.sizeOf_spec, Expr.between.sizeOf_spec, Expr.like.sizeOf_spec,
      Expr.call.sizeOf_spec, Expr.cast.sizeOf_spec, Expr.exists.sizeOf_spec,
      Expr.subquery.sizeOf_spec, Expr.quantified.sizeOf_spec, Expr.case.sizeOf_spec,
      Expr.array.sizeOf_spec, Expr.tuple.sizeOf_spec, Expr.interval.sizeOf_spec,
      Expr.extract.sizeOf_spec, Expr.collate.sizeOf_spec, Expr.atTimeZone.sizeOf_spec,
      Expr.position.sizeOf_spec, Expr.substring.sizeOf_spec, Expr.trim.sizeOf_spec,
      Expr.ceilFloor.sizeOf_spec, Expr.fieldAccess.sizeOf_spec, Expr.memberOf.sizeOf_spec,
      Expr.convert.sizeOf_spec, Expr.overlay.sizeOf_spec, Expr.groupingSets.sizeOf_spec,
      Expr.cube.sizeOf_spec, Expr.rollup.sizeOf_spec, Option.some.sizeOf_spec] at *)
    omega

/-- A set in parentheses, as `GROUPING SETS` writes each of its sets. -/
def GroupingSet.render : GroupingSet → String
  | .mk items => "(" ++ commaList (items.map fun e => e.render) ++ ")"
termination_by x => sizeOf x
decreasing_by
  all_goals
    (try have := List.sizeOf_lt_of_mem ‹_ ∈ _›)
    (try simp only [GroupingSet.mk.sizeOf_spec] at *)
    omega

/-- A set as `CUBE` and `ROLLUP` write it: a single expression bare, others in
parentheses. -/
def GroupingSet.renderLifted : GroupingSet → String
  | .mk [e] => e.render
  | .mk items => "(" ++ commaList (items.map fun e => e.render) ++ ")"
termination_by x => sizeOf x
decreasing_by
  all_goals
    (try have := List.sizeOf_lt_of_mem ‹_ ∈ _›)
    (try simp only [GroupingSet.mk.sizeOf_spec, List.cons.sizeOf_spec] at *)
    omega

/-- The `GROUP BY` clause with a leading space, or nothing when there are no keys. -/
def GroupBy.render : GroupBy → String
  | .all modifiers => " GROUP BY ALL" ++ String.join (modifiers.map fun m => " " ++ m.render)
  | .keys [] _ => ""
  | .keys items modifiers =>
    " GROUP BY " ++ commaList (items.map fun e => e.render) ++
      String.join (modifiers.map fun m => " " ++ m.render)
termination_by x => sizeOf x
decreasing_by
  all_goals
    (try have := List.sizeOf_lt_of_mem ‹_ ∈ _›)
    (try simp only [GroupBy.all.sizeOf_spec, GroupBy.keys.sizeOf_spec] at *)
    omega

def GroupByModifier.render : GroupByModifier → String
  | .rollup => "WITH ROLLUP"
  | .cube => "WITH CUBE"
  | .totals => "WITH TOTALS"
  | .groupingSets e => e.render
termination_by x => sizeOf x
decreasing_by
  all_goals
    (try simp only [GroupByModifier.groupingSets.sizeOf_spec] at *)
    omega

/-- `.field`, `[i]`, or `[lower:upper]` with `:stride` when one is given. -/
def Access.render : Access → String
  | .dot e => "." ++ e.render
  | .index e => "[" ++ e.render ++ "]"
  | .slice lower upper stride =>
    "[" ++ (match lower with | some e => e.render | none => "") ++ ":" ++
      (match upper with | some e => e.render | none => "") ++
      (match stride with | some e => ":" ++ e.render | none => "") ++ "]"
termination_by x => sizeOf x
decreasing_by
  all_goals
    (try simp only [Access.dot.sizeOf_spec, Access.index.sizeOf_spec, Access.slice.sizeOf_spec,
      Option.some.sizeOf_spec] at *)
    omega

def WhenBranch.render : WhenBranch → String
  | .mk c r => "WHEN " ++ c.render ++ " THEN " ++ r.render
termination_by x => sizeOf x
decreasing_by
  all_goals
    (try simp only [WhenBranch.mk.sizeOf_spec] at *)
    omega

def FunctionArgs.render : FunctionArgs → String
  | .none => ""
  | .subquery q => "(" ++ q.render ++ ")"
  | .list d args clauses =>
    "(" ++ (match d with | some true => "DISTINCT " | some false => "ALL " | none => "") ++
      commaList (args.map fun a => a.render) ++
      (if clauses.isEmpty then ""
       else (if args.isEmpty then "" else " ") ++ " ".intercalate (clauses.map fun c => c.render)) ++
      ")"
termination_by x => sizeOf x
decreasing_by
  all_goals
    (try have := List.sizeOf_lt_of_mem ‹_ ∈ _›)
    (try simp only [FunctionArgs.subquery.sizeOf_spec, FunctionArgs.list.sizeOf_spec] at *)
    omega

def ArgClause.render : ArgClause → String
  | .nullTreatment t => t.text
  | .orderBy keys => "ORDER BY " ++ commaList (keys.map fun o => o.render)
  | .limit e => "LIMIT " ++ e.render
  | .having max e => "HAVING " ++ (if max then "MAX " else "MIN ") ++ e.render
  | .separator v => "SEPARATOR " ++ v.render
  | .onOverflowError => "ON OVERFLOW ERROR"
  | .onOverflowTruncate filler withCount =>
    "ON OVERFLOW TRUNCATE" ++ (match filler with | some f => " " ++ f.render | none => "") ++
      (if withCount then " WITH" else " WITHOUT") ++ " COUNT"
  | .jsonNull absent => if absent then "ABSENT ON NULL" else "NULL ON NULL"
  | .returning ty => "RETURNING " ++ ty.text
termination_by x => sizeOf x
decreasing_by
  all_goals
    (try have := List.sizeOf_lt_of_mem ‹_ ∈ _›)
    (try simp only [ArgClause.orderBy.sizeOf_spec, ArgClause.limit.sizeOf_spec,
      ArgClause.having.sizeOf_spec, ArgClause.onOverflowTruncate.sizeOf_spec,
      Option.some.sizeOf_spec] at *)
    omega

def FunctionArg.render : FunctionArg → String
  | .unnamed e => e.render
  | .named n op e => n.render ++ " " ++ op.text ++ " " ++ e.render
termination_by x => sizeOf x
decreasing_by
  all_goals
    (try simp only [FunctionArg.unnamed.sizeOf_spec, FunctionArg.named.sizeOf_spec] at *)
    omega

def WindowSpec.render : WindowSpec → String
  | .named n => n.render
  | .spec name parts orderBy frame =>
    let pieces :=
      (match name with | some n => [n.render] | none => []) ++
      (if parts.isEmpty then [] else ["PARTITION BY " ++ commaList (parts.map fun p => p.render)]) ++
      (if orderBy.isEmpty then [] else ["ORDER BY " ++ commaList (orderBy.map fun o => o.render)]) ++
      (match frame with | some f => [f.render] | none => [])
    "(" ++ " ".intercalate pieces ++ ")"
termination_by x => sizeOf x
decreasing_by
  all_goals
    (try have := List.sizeOf_lt_of_mem ‹_ ∈ _›)
    (try simp only [WindowSpec.spec.sizeOf_spec, Option.some.sizeOf_spec] at *)
    omega

def FrameBound.render : FrameBound → String
  | .currentRow => "CURRENT ROW"
  | .preceding none => "UNBOUNDED PRECEDING"
  | .following none => "UNBOUNDED FOLLOWING"
  | .preceding (some e) => e.render ++ " PRECEDING"
  | .following (some e) => e.render ++ " FOLLOWING"
termination_by x => sizeOf x
decreasing_by
  all_goals
    (try simp only [FrameBound.preceding.sizeOf_spec, FrameBound.following.sizeOf_spec,
      Option.some.sizeOf_spec] at *)
    omega

def WindowFrame.render : WindowFrame → String
  | .mk units start (some finish) =>
    units ++ " BETWEEN " ++ start.render ++ " AND " ++ finish.render
  | .mk units start none => units ++ " " ++ start.render
termination_by x => sizeOf x
decreasing_by
  all_goals
    (try simp only [WindowFrame.mk.sizeOf_spec, Option.some.sizeOf_spec] at *)
    omega

def OrderByExpr.render : OrderByExpr → String
  | .mk e asc nulls =>
    e.render ++ (match asc with | some true => " ASC" | some false => " DESC" | none => "") ++
      (match nulls with | some true => " NULLS FIRST" | some false => " NULLS LAST" | none => "")
termination_by x => sizeOf x
decreasing_by
  all_goals
    (try simp only [OrderByExpr.mk.sizeOf_spec] at *)
    omega

def Query.render : Query → String
  | .mk recursive ctes body orderBy limit fetch locks forClause =>
    (if ctes.isEmpty then ""
     else "WITH " ++ (if recursive then "RECURSIVE " else "") ++
       commaList (ctes.map fun c => c.render) ++ " ") ++
    body.render ++
    (if orderBy.isEmpty then "" else " ORDER BY " ++ commaList (orderBy.map fun o => o.render)) ++
    limit.render ++
    (match fetch with | some ft => " " ++ ft.render | none => "") ++
    String.join (locks.map fun l => " " ++ l.render) ++
    (match forClause with | some c => " " ++ c | none => "")
termination_by x => sizeOf x
decreasing_by
  all_goals
    (try have := List.sizeOf_lt_of_mem ‹_ ∈ _›)
    (try simp only [Query.mk.sizeOf_spec] at *)
    omega

def Cte.render : Cte → String
  | .mk aliasName mat q =>
    aliasName.render ++ " AS " ++
      (match mat with | some true => "MATERIALIZED " | some false => "NOT MATERIALIZED " | none => "") ++
      "(" ++ q.render ++ ")"
termination_by x => sizeOf x
decreasing_by
  all_goals
    (try simp only [Cte.mk.sizeOf_spec] at *)
    omega

def Limit.render : Limit → String
  | .none => ""
  | .limitOffset l o rowsWord =>
    (match l with | some x => " LIMIT " ++ x.render | none => "") ++
    (match o with
     | some x => " OFFSET " ++ x.render ++
        (match rowsWord with | .none => "" | .row => " ROW" | .rows => " ROWS")
     | none => "")
  | .offsetComma o l => " LIMIT " ++ o.render ++ ", " ++ l.render
termination_by x => sizeOf x
decreasing_by
  all_goals
    (try simp only [Limit.limitOffset.sizeOf_spec, Limit.offsetComma.sizeOf_spec,
      Option.some.sizeOf_spec] at *)
    omega

def SetExpr.render : SetExpr → String
  | .select s => s.render
  | .query q => "(" ++ q.render ++ ")"
  | .setOp op qu l r =>
    l.render ++ " " ++ op.text ++ (if qu == .none then "" else " " ++ qu.text) ++ " " ++ r.render
  | .values explicitRow valueKeyword rows =>
    (if valueKeyword then "VALUE" else "VALUES") ++
      ",".intercalate (rows.map fun r => " " ++ (if explicitRow then "ROW" else "") ++ r.render)
  | .table n => "TABLE " ++ n.render
  | .dml text => text
termination_by x => sizeOf x
decreasing_by
  all_goals
    (try have := List.sizeOf_lt_of_mem ‹_ ∈ _›)
    (try simp only [SetExpr.select.sizeOf_spec, SetExpr.query.sizeOf_spec,
      SetExpr.setOp.sizeOf_spec, SetExpr.values.sizeOf_spec] at *)
    omega

def Row.render : Row → String
  | .mk items => "(" ++ commaList (items.map fun x => x.render) ++ ")"
termination_by x => sizeOf x
decreasing_by
  all_goals
    (try have := List.sizeOf_lt_of_mem ‹_ ∈ _›)
    (try simp only [Row.mk.sizeOf_spec] at *)
    omega

def Distinct.render : Distinct → String
  | .none => ""
  | .distinct => " DISTINCT"
  | .all => " ALL"
  | .on es => " DISTINCT ON (" ++ commaList (es.map fun x => x.render) ++ ")"
termination_by x => sizeOf x
decreasing_by
  all_goals
    (try have := List.sizeOf_lt_of_mem ‹_ ∈ _›)
    (try simp only [Distinct.on.sizeOf_spec] at *)
    omega

def Top.render : Top → String
  | .mk q parens percent ties =>
    "TOP" ++
      (match q with
       | some x => if parens then " (" ++ x.render ++ ")" else " " ++ x.render
       | none => "") ++
      (if percent then " PERCENT" else "") ++ (if ties then " WITH TIES" else "")
termination_by x => sizeOf x
decreasing_by
  all_goals
    (try simp only [Top.mk.sizeOf_spec, Option.some.sizeOf_spec] at *)
    omega

def SelectItem.render : SelectItem → String
  | .expr e => e.render
  | .aliased e a => e.render ++ " AS " ++ a.render
  | .wildcard e options => e.render ++ String.join (options.map (" " ++ ·))
termination_by x => sizeOf x
decreasing_by
  all_goals
    (try simp only [SelectItem.expr.sizeOf_spec, SelectItem.aliased.sizeOf_spec,
      SelectItem.wildcard.sizeOf_spec] at *)
    omega

def Select.render : Select → String
  | .mk dist top topFirst projection from_ selection groupBy having windows qualify windowFirst
      into fromClauses distribution =>
    let topText := match top with | some t => " " ++ t.render | none => ""
    "SELECT" ++ (if topFirst then topText else "") ++ dist.render ++
      (if topFirst then "" else topText) ++
      (if projection.isEmpty then "" else " " ++ commaList (projection.map fun p => p.render)) ++
      (match into with | some i => " " ++ i.render | none => "") ++
      (if from_.isEmpty then "" else " FROM " ++ commaList (from_.map fun t => t.render)) ++
      String.join (fromClauses.map (" " ++ ·)) ++
      (match selection with | some w => " WHERE " ++ w.render | none => "") ++
      groupBy.render ++
      String.join (distribution.map (" " ++ ·)) ++
      (match having with | some h => " HAVING " ++ h.render | none => "") ++
      (let windowText :=
         if windows.isEmpty then "" else " WINDOW " ++ commaList (NamedWindow.renderEach windows)
       if windowFirst then windowText ++ renderQualify qualify else renderQualify qualify ++ windowText)
termination_by x => sizeOf x
decreasing_by
  all_goals
    (try have := List.sizeOf_lt_of_mem ‹_ ∈ _›)
    (try simp only [Select.mk.sizeOf_spec, Option.some.sizeOf_spec] at *)
    omega

/-- The `QUALIFY` clause, if any. -/
def renderQualify : Option Expr → String
  | some e => " QUALIFY " ++ e.render
  | none => ""
termination_by x => sizeOf x
decreasing_by
  all_goals
    (try simp only [Option.some.sizeOf_spec] at *)
    omega

def NamedWindow.render : NamedWindow → String
  | .mk name spec => name.render ++ " AS " ++ spec.render
termination_by x => sizeOf x
decreasing_by
  all_goals
    (try simp only [NamedWindow.mk.sizeOf_spec] at *)
    omega

/-- Named windows one by one. -/
def NamedWindow.renderEach : List NamedWindow → List String
  | [] => []
  | w :: rest => w.render :: NamedWindow.renderEach rest
termination_by x => sizeOf x
decreasing_by
  all_goals
    (try simp only [List.cons.sizeOf_spec] at *)
    omega

def TableWithJoins.render : TableWithJoins → String
  | .mk rel joins => rel.render ++ String.join (joins.map fun j => " " ++ j.render)
termination_by x => sizeOf x
decreasing_by
  all_goals
    (try have := List.sizeOf_lt_of_mem ‹_ ∈ _›)
    (try simp only [TableWithJoins.mk.sizeOf_spec] at *)
    omega

def TableSample.render : TableSample → String
  | .mk keyword method q parens unit seedKeyword seed =>
    keyword ++ (match method with | some m => " " ++ m | none => "") ++
      (match q with
       | some x =>
         " " ++ (if parens then "(" else "") ++ x.render ++
           (match unit with | some u => " " ++ u | none => "") ++ (if parens then ")" else "")
       | none => "") ++
      (match seed with | some s => " " ++ seedKeyword ++ " (" ++ s.render ++ ")" | none => "")
termination_by x => sizeOf x
decreasing_by
  all_goals
    (try simp only [TableSample.mk.sizeOf_spec, Option.some.sizeOf_spec] at *)
    omega

/-- Expressions one by one. -/
def Expr.renderEach : List Expr → List String
  | [] => []
  | e :: rest => e.render :: Expr.renderEach rest
termination_by x => sizeOf x
decreasing_by
  all_goals
    (try simp only [List.cons.sizeOf_spec] at *)
    omega

/-- Function arguments one by one. -/
def FunctionArg.renderEach : List FunctionArg → List String
  | [] => []
  | a :: rest => a.render :: FunctionArg.renderEach rest
termination_by x => sizeOf x
decreasing_by
  all_goals
    (try simp only [List.cons.sizeOf_spec] at *)
    omega

/-- Arguments of a table, in parentheses, when there are any. -/
def FunctionArg.renderOptional : Option (List FunctionArg) → String
  | some xs => "(" ++ commaList (FunctionArg.renderEach xs) ++ ")"
  | none => ""
termination_by x => sizeOf x
decreasing_by
  all_goals
    (try simp only [Option.some.sizeOf_spec] at *)
    omega

def TableFactor.render : TableFactor → String
  | .table name partitions args aliasName indexHints hints version sample ord =>
    name.render ++
      (if partitions.isEmpty then "" else " PARTITION (" ++ commaList (partitions.map Ident.render) ++ ")") ++
      FunctionArg.renderOptional args ++
      (if ord then " WITH ORDINALITY" else "") ++
      optionalAlias aliasName ++
      String.join (indexHints.map fun h => " " ++ h.render) ++
      (if hints.isEmpty then "" else " WITH (" ++ commaList (Expr.renderEach hints) ++ ")") ++
      (match version with | some e => " FOR SYSTEM_TIME AS OF " ++ e.render | none => "") ++
      (match sample with | some s => " " ++ s.render | none => "")
  | .derived lateral q aliasName =>
    (if lateral then "LATERAL " else "") ++ "(" ++ q.render ++ ")" ++ optionalAlias aliasName
  | .nested t aliasName => "(" ++ t.render ++ ")" ++ optionalAlias aliasName
  | .unnest es aliasName ord =>
    "UNNEST(" ++ commaList (Expr.renderEach es) ++ ")" ++
      (if ord then " WITH ORDINALITY" else "") ++ optionalAlias aliasName
  | .function lateral name args aliasName =>
    (if lateral then "LATERAL " else "") ++ name.render ++ "(" ++
      commaList (FunctionArg.renderEach args) ++ ")" ++ optionalAlias aliasName
  | .tableFunction e aliasName => "TABLE(" ++ e.render ++ ")" ++ optionalAlias aliasName
  | .columnsFunction text aliasName => text ++ optionalAlias aliasName
  | .pivot t aggregates columns values defaultOnNull aliasName =>
    t.render ++ " PIVOT(" ++ commaList (aggregates.map fun a => a.render) ++ " FOR " ++
      (match Expr.renderEach columns with
       | [c] => c
       | cs => "(" ++ commaList cs ++ ")") ++
      " IN (" ++ values.render ++ ")" ++
      (match defaultOnNull with
       | some e => " DEFAULT ON NULL (" ++ e.render ++ ")"
       | none => "") ++
      ")" ++ optionalAlias aliasName
  | .unpivot t includeNulls value name columns aliasName =>
    t.render ++ " UNPIVOT" ++
      (match includeNulls with
       | some true => " INCLUDE NULLS "
       | some false => " EXCLUDE NULLS "
       | none => "") ++
      "(" ++ value.render ++ " FOR " ++ name.render ++ " IN (" ++
      commaList (columns.map fun c => c.render) ++ "))" ++ optionalAlias aliasName
termination_by x => sizeOf x
decreasing_by
  all_goals
    (try have := List.sizeOf_lt_of_mem ‹_ ∈ _›)
    (try simp only [TableFactor.table.sizeOf_spec, TableFactor.derived.sizeOf_spec,
      TableFactor.nested.sizeOf_spec, TableFactor.unnest.sizeOf_spec,
      TableFactor.function.sizeOf_spec, TableFactor.tableFunction.sizeOf_spec,
      TableFactor.pivot.sizeOf_spec, TableFactor.unpivot.sizeOf_spec,
      Option.some.sizeOf_spec] at *)
    omega

/-- `e` or `e AS name`. -/
def AliasedExpr.render : AliasedExpr → String
  | .mk e none => e.render
  | .mk e (some name) => e.render ++ " AS " ++ name.render
termination_by x => sizeOf x
decreasing_by
  all_goals
    (try simp only [AliasedExpr.mk.sizeOf_spec] at *)
    omega

/-- The values inside `IN (...)` of a `PIVOT`. -/
def PivotValues.render : PivotValues → String
  | .list values => commaList (values.map fun v => v.render)
  | .any [] => "ANY"
  | .any orderBy => "ANY ORDER BY " ++ commaList (orderBy.map fun o => o.render)
  | .query q => q.render
termination_by x => sizeOf x
decreasing_by
  all_goals
    (try have := List.sizeOf_lt_of_mem ‹_ ∈ _›)
    (try simp only [PivotValues.list.sizeOf_spec, PivotValues.any.sizeOf_spec,
      PivotValues.query.sizeOf_spec] at *)
    omega

def Join.render : Join → String
  | .mk rel op =>
    match op with
    | .join kind c =>
      (if kind.takesNatural && c matches .natural then "NATURAL " else "") ++ kind.text ++ " " ++
        rel.render ++ c.render
    | .crossApply => "CROSS APPLY " ++ rel.render
    | .outerApply => "OUTER APPLY " ++ rel.render
    | .asOf mc c => "ASOF JOIN " ++ rel.render ++ " MATCH_CONDITION (" ++ mc.render ++ ")" ++ c.render
termination_by x => sizeOf x
decreasing_by
  all_goals
    (try simp only [Join.mk.sizeOf_spec, JoinOperator.join.sizeOf_spec,
      JoinOperator.asOf.sizeOf_spec] at *)
    omega

/-- The text after the joined relation: ` ON ...`, ` USING(...)`, or nothing. -/
def JoinConstraint.render : JoinConstraint → String
  | .on e => " ON " ++ e.render
  | .using cols => " USING(" ++ commaList (cols.map Name.render) ++ ")"
  | .natural => ""
  | .none => ""
termination_by x => sizeOf x
decreasing_by
  all_goals
    (try simp only [JoinConstraint.on.sizeOf_spec] at *)
    omega

end

def Assignment.render (a : Assignment) : String :=
  (match a.target with
   | .column n => n.render
   | .tuple ns => "(" ++ commaList (ns.map Name.render) ++ ")") ++ " = " ++ a.value.render

def renderAssignments (xs : List Assignment) : String := commaList (xs.map Assignment.render)

def OnInsert.render : OnInsert → String
  | .duplicateKeyUpdate sets => " ON DUPLICATE KEY UPDATE " ++ renderAssignments sets
  | .onConflict target constraintName action =>
    " ON CONFLICT" ++
      (match target with | some cols => "(" ++ commaList (cols.map Ident.render) ++ ")" | none => "") ++
      (match constraintName with | some n => " ON CONSTRAINT " ++ n.render | none => "") ++
      (match action with
       | none => " DO NOTHING"
       | some (sets, cond) =>
         " DO UPDATE" ++ (if sets.isEmpty then "" else " SET " ++ renderAssignments sets) ++
           (match cond with | some c => " WHERE " ++ c.render | none => ""))

def renderReturning : Option (List SelectItem) → String
  | some items => " RETURNING " ++ commaList (items.map SelectItem.render)
  | none => ""

def Insert.render (i : Insert) : String :=
  let tableName := i.table.render ++ (match i.aliasName with | some a => " AS " ++ a.render | none => "")
  (match i.orClause with
   | some c => "INSERT OR " ++ c ++ " INTO " ++ tableName ++ " "
   | none =>
     (if i.replace then "REPLACE" else "INSERT") ++
       (match i.priority with | some p => " " ++ p | none => "") ++
       (if i.ignore then " IGNORE" else "") ++
       (if i.into then " INTO" else "") ++ (if i.tableKeyword then " TABLE" else "") ++
       " " ++ tableName ++ " ") ++
    (if i.columns.isEmpty then "" else "(" ++ commaList (i.columns.map Ident.render) ++ ") ") ++
    (match i.source with
     | some q => q.render
     | none =>
       if !i.assignments.isEmpty then "SET " ++ renderAssignments i.assignments
       else if i.columns.isEmpty then "DEFAULT VALUES" else "") ++
    (match i.rowAlias with
     | some (name, cols) =>
       " AS " ++ name.render ++ (if cols.isEmpty then "" else " (" ++ commaList (cols.map Ident.render) ++ ")")
     | none => "") ++
    (match i.on with | some o => o.render | none => "") ++
    renderReturning i.returning

def renderTables (ts : List TableWithJoins) : String := commaList (ts.map TableWithJoins.render)

def Update.render (u : Update) : String :=
  "UPDATE " ++ (match u.orClause with | some c => "OR " ++ c ++ " " | none => "") ++ u.table.render ++
    (match u.from_ with | some (.beforeSet ts) => " FROM " ++ renderTables ts | _ => "") ++
    (if u.assignments.isEmpty then "" else " SET " ++ renderAssignments u.assignments) ++
    (match u.from_ with | some (.afterSet ts) => " FROM " ++ renderTables ts | _ => "") ++
    (match u.selection with | some w => " WHERE " ++ w.render | none => "") ++
    renderReturning u.returning ++
    (match u.limit with | some l => " LIMIT " ++ l.render | none => "")

def Delete.render (d : Delete) : String :=
  "DELETE" ++
    (if d.tables.isEmpty then "" else " " ++ commaList (d.tables.map Name.render)) ++
    (if d.fromKeyword then " FROM" else "") ++
    (if d.from_.isEmpty then "" else " " ++ renderTables d.from_) ++
    (match d.usingTables with | some ts => " USING " ++ renderTables ts | none => "") ++
    (match d.selection with | some w => " WHERE " ++ w.render | none => "") ++
    renderReturning d.returning ++
    (if d.orderBy.isEmpty then "" else " ORDER BY " ++ commaList (d.orderBy.map OrderByExpr.render)) ++
    (match d.limit with | some l => " LIMIT " ++ l.render | none => "")

def Statement.render : Statement → String
  | .query q => q.render
  | .insert i => i.render
  | .update u => u.render
  | .delete d => d.render
  | .other text => text

end SqlScope.Sql
