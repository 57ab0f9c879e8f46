import SqlScope.Scope.InsertColumn

/-!
# Adding a column to an insert

What a column fill does to every insert. An insert into another table is left as it
is (`apply` gives `none`). An insert into the fill's table is turned down by the first of
five checks it fails, in the order they are made (`Rejects`): it has no column list, it
lists the column already, it has no source, its source is not a `VALUES` list, or its one
row is led by a call and holds an item that is not a call with an argument list. A
failure gives no insert, so the insert its caller holds is the one it passed in.

An insert that passes every check gets the column at the end of its column list and the
value in its rows, by the shape of the `VALUES` list (`TakesValue`): at the end of each row
of a batch of two or more, at the end of a single row, as the last argument of every call
of a single row led by a call, and as a row of its own when the list has no row. Nothing
else changes.

## Main statements

- `ColumnFill.apply_fails_iff`: when a fill fails, and with which error.
- `ColumnFill.apply_adds_column`: what a successful fill changes, and that rows as long as
  the column list stay so, unless the list has no row.
- `ColumnFill.apply_empty_values`: a `VALUES` list of no rows takes a row of the value
  alone, shorter than the new column list; `ColumnFill.empty_values_breaks_arity` is such an
  insert, whose rows all matched its column list before the fill.
-/

namespace SqlScope.Sql

/-- The items of a row. -/
def Row.items : Row → List Expr
  | .mk items => items

@[simp] theorem Row.items_mk (items : List Expr) : (Row.mk items).items = items := rfl

/-- Whether a query body is a `VALUES` list. -/
def SetExpr.isValues : SetExpr → Bool
  | .values .. => true
  | _ => false

theorem SetExpr.isValues_eq_true {b : SetExpr} :
    b.isValues = true ↔ ∃ x kw rows, b = .values x kw rows := by
  cases b with
  | values x kw rows => exact ⟨fun _ => ⟨x, kw, rows, rfl⟩, fun _ => rfl⟩
  | select | query | setOp | table | dml => exact ⟨fun h => (by cases h), fun ⟨_, _, _, h⟩ => (by cases h)⟩

end SqlScope.Sql

namespace SqlScope.Scope

open SqlScope.Sql

@[simp] theorem namesEqual_self (name : String) : namesEqual name name = true := by
  simp [namesEqual]

/-- A row whose first item is a function call: alone in its `VALUES` list, it is read as
a row of calls. -/
def LedByCall (items : List Expr) : Prop := ∃ first, items.head? = some first ∧ isCall first = true

/-- How a `VALUES` list takes the value `v`, by its shape. -/
inductive TakesValue (v : Expr) : List Row → List Row → Prop where
  /-- A list of no rows gets a row of the value alone. -/
  | empty : TakesValue v [] [.mk [v]]
  /-- Every row of a batch of two or more gets the value at its end. -/
  | batch {rows : List Row} : 2 ≤ rows.length →
      TakesValue v rows (rows.map fun row => .mk (row.items ++ [v]))
  /-- A single row not led by a call gets the value at its end. -/
  | plain {items : List Expr} : ¬ LedByCall items → TakesValue v [.mk items] [.mk (items ++ [v])]
  /-- A single row led by a call, whose items are all calls with argument lists, gets the
  value as the last argument of each call. -/
  | calls {items : List Expr} : LedByCall items → (∀ x ∈ items, isCallWithArgs x = true) →
      TakesValue v [.mk items] [.mk (items.map (appendArgument v))]

/-- A call with an argument list takes the value as its last, unnamed, argument. -/
theorem appendArgument_of_isCallWithArgs {v x : Expr} (h : isCallWithArgs x = true) :
    ∃ name d args clauses wg filter nt window,
      x = .call name (.list d args clauses) wg filter nt window ∧
      appendArgument v x = .call name (.list d (args ++ [.unnamed v]) clauses) wg filter nt window := by
  -- only a call with an argument list passes the test
  cases x <;> simp only [isCallWithArgs, Bool.false_eq_true] at h
  case call name args wg filter nt window =>
    cases args with
    | list d args clauses => exact ⟨name, d, args, clauses, wg, filter, nt, window, rfl, rfl⟩
    | none | subquery _ => simp only [Bool.false_eq_true] at h

/-- Rows as long as `n` stay as long as each other, one item longer, when a list that has a
row and is not a single row led by a call takes a value. -/
theorem TakesValue.length_items {v : Expr} {rows rows' : List Row} (h : TakesValue v rows rows')
    (hne : rows ≠ []) (hcall : ¬ ∃ items, rows = [.mk items] ∧ LedByCall items) {n : Nat}
    (hn : ∀ row ∈ rows, row.items.length = n) : ∀ row ∈ rows', row.items.length = n + 1 := by
  cases h with
  | empty => exact absurd rfl hne
  | batch _ =>
    intro row hrow
    obtain ⟨row₀, hrow₀, rfl⟩ := List.mem_map.mp hrow
    simp [hn row₀ hrow₀]
  | plain _ =>
    intro row hrow
    rw [List.mem_singleton] at hrow
    subst hrow
    have h₀ := hn _ List.mem_cons_self
    simp only [Row.items_mk] at h₀
    simp [h₀]
  | @calls items hled _ => exact absurd ⟨items, rfl, hled⟩ hcall

/-! ## Adding the value to the rows -/

/-- The value goes into the rows unless the list is a single row led by a call with an
item that is not a call with an argument list; the first such item names the failure. -/
theorem appendValue_eq_error_iff (table : String) (v : Expr) (rows : List Row) (e : RewriteError) :
    appendValue table v rows = .error e ↔
      ∃ items, rows = [.mk items] ∧ LedByCall items ∧
        ∃ before bad after, items = before ++ bad :: after ∧
          (∀ b ∈ before, isCallWithArgs b = true) ∧ isCallWithArgs bad = false ∧
          e = .unsupportedValuesShape table ("`" ++ bad.render ++ "` is not a call with an argument list") := by
  rcases rows with _ | ⟨⟨items⟩, _ | ⟨r₂, rest⟩⟩
  · simp only [appendValue, pure, Except.pure, reduceCtorEq, false_iff]
    rintro ⟨items, h, -⟩
    cases h
  · -- a single row: only one led by a call can fail
    cases items with
    | nil =>
      simp only [appendValue, List.head?_nil, pure, Except.pure, reduceCtorEq, false_iff]
      rintro ⟨_, h, ⟨first, hf, -⟩, -⟩
      cases List.singleton_inj.mp h
      cases hf
    | cons first tail =>
      have hled : LedByCall (first :: tail) ↔ isCall first = true := by simp [LedByCall]
      cases hc : isCall first with
      | false =>
        simp only [appendValue, List.head?_cons, hc, Bool.not_false, if_true, pure, Except.pure,
          reduceCtorEq, false_iff]
        rintro ⟨_, h, hl, -⟩
        cases List.singleton_inj.mp h
        rw [hled, hc] at hl
        cases hl
      | true =>
        simp only [appendValue, List.head?_cons, hc, Bool.not_true, Bool.false_eq_true, if_false]
        cases hf : (first :: tail).find? (fun e => !isCallWithArgs e) with
        | none =>
          simp only [pure, Except.pure, reduceCtorEq, false_iff]
          rintro ⟨_, h, -, before, bad, after, hsplit, hbefore, hbad, -⟩
          cases List.singleton_inj.mp h
          have hnone := List.find?_eq_none.mp hf bad (by rw [hsplit]; simp)
          simp [hbad] at hnone
        | some bad =>
          obtain ⟨hbad, before, after, hsplit, hbefore⟩ := List.find?_eq_some_iff_append.mp hf
          simp only [throw, throwThe, MonadExceptOf.throw, Except.error.injEq]
          constructor
          · intro he
            refine ⟨first :: tail, rfl, hled.mpr hc, before, bad, after, hsplit,
              fun b hb => by simpa using hbefore b hb, by simpa using hbad, ?_⟩
            exact he.symm
          · rintro ⟨_, h, -, before', bad', after', hsplit', hbefore', hbad', rfl⟩
            cases List.singleton_inj.mp h
            -- the first item that is not such a call is the one `find?` gives
            have hf' : (first :: tail).find? (fun e => !isCallWithArgs e) = some bad' :=
              List.find?_eq_some_iff_append.mpr ⟨by simp [hbad'], before', after', hsplit',
                fun b hb => by simp [hbefore' b hb]⟩
            rw [hf] at hf'
            cases hf'
            rfl
  · simp only [appendValue, pure, Except.pure, reduceCtorEq, false_iff]
    rintro ⟨_, h, -⟩
    cases h

/-- A list that takes the value takes it by its shape. -/
theorem takesValue_of_appendValue {table : String} {v : Expr} {rows rows' : List Row}
    (h : appendValue table v rows = .ok rows') : TakesValue v rows rows' := by
  rcases rows with _ | ⟨⟨items⟩, _ | ⟨r₂, rest⟩⟩
  · cases h
    exact .empty
  · cases items with
    | nil =>
      cases h
      refine .plain ?_
      rintro ⟨_, hf, _⟩
      cases hf
    | cons first tail =>
      cases hc : isCall first with
      | false =>
        simp only [appendValue, List.head?_cons, hc, Bool.not_false, if_true] at h
        cases h
        refine .plain ?_
        rintro ⟨_, hf, hcall⟩
        cases List.head?_cons ▸ hf
        rw [hc] at hcall
        cases hcall
      | true =>
        simp only [appendValue, List.head?_cons, hc, Bool.not_true, Bool.false_eq_true, if_false] at h
        cases hf : (first :: tail).find? (fun e => !isCallWithArgs e) with
        | none =>
          rw [hf] at h
          cases h
          refine .calls ⟨first, rfl, hc⟩ fun x hx => ?_
          simpa using List.find?_eq_none.mp hf x hx
        | some bad =>
          rw [hf] at h
          cases h
  · cases h
    -- the rows of a batch are taken apart by a `match`, which is `Row.items`
    show TakesValue v _ (List.map ?push _)
    have hpush : ?push = fun row => Row.mk (row.items ++ [v]) := by
      funext row
      cases row
      rfl
    rw [hpush]
    exact .batch (by simp)

/-! ## The checks of a fill -/

namespace ColumnFill

variable (c : ColumnFill) (ins : Insert)

/-- The column list can take the column: it is written and does not list the column. -/
def Listable : Prop :=
  ins.columns ≠ [] ∧ ∀ col ∈ ins.columns, namesEqual col.value c.column.value = false

/-- A column list that is written and does not list the column can take it. -/
theorem listable_of {c : ColumnFill} {ins : Insert} (hc : ins.columns ≠ [])
    (hl : ¬ ∃ col ∈ ins.columns, namesEqual col.value c.column.value = true) : c.Listable ins :=
  ⟨hc, fun col hcol => by simpa using fun h => hl ⟨col, hcol, h⟩⟩

theorem Listable.any_eq_false {c : ColumnFill} {ins : Insert} (ho : c.Listable ins) :
    ins.columns.any (fun col => namesEqual col.value c.column.value) = false := by
  simpa using ho.2

/-- The first check an insert into the fill's table fails, with the error it reports. -/
inductive Rejects : RewriteError → Prop where
  | noColumns : ins.columns = [] →
      Rejects (.unsupportedValuesShape ins.table.render "statement has no column list")
  | listed : ins.columns ≠ [] → (∃ col ∈ ins.columns, namesEqual col.value c.column.value = true) →
      Rejects (.unsupportedValuesShape ins.table.render
        ("column " ++ c.column.render ++ " is already listed"))
  | noSource : c.Listable ins → ins.source = none → Rejects (.missingInsertSource ins.table.render)
  | notValues {q : Query} : c.Listable ins → ins.source = some q → q.body.isValues = false →
      Rejects (.unsupportedInsertSource ins.table.render (sourceKind q.body))
  | notCall {q : Query} {x kw : Bool} {items before after : List Expr} {bad : Expr} :
      c.Listable ins → ins.source = some q → q.body = .values x kw [.mk items] → LedByCall items →
      items = before ++ bad :: after → (∀ b ∈ before, isCallWithArgs b = true) →
      isCallWithArgs bad = false →
      Rejects (.unsupportedValuesShape ins.table.render
        ("`" ++ bad.render ++ "` is not a call with an argument list"))

theorem apply_of_not_refersTo (h : c.target.refersTo ins.table none = false) :
    c.apply ins = .ok none := by
  simp only [apply, h, Bool.not_false, if_true]
  rfl

theorem apply_of_columns_nil (h : c.target.refersTo ins.table none = true) (hc : ins.columns = []) :
    c.apply ins = .error (.unsupportedValuesShape ins.table.render "statement has no column list") := by
  simp only [apply, h, hc, Bool.not_true, Bool.false_eq_true, if_false, List.isEmpty_nil, if_true]
  rfl

theorem apply_of_listed (h : c.target.refersTo ins.table none = true) (hc : ins.columns ≠ [])
    (hl : ∃ col ∈ ins.columns, namesEqual col.value c.column.value = true) :
    c.apply ins = .error (.unsupportedValuesShape ins.table.render
      ("column " ++ c.column.render ++ " is already listed")) := by
  have hany : ins.columns.any (fun col => namesEqual col.value c.column.value) = true :=
    List.any_eq_true.mpr hl
  simp only [apply, h, hany, Bool.not_true, Bool.false_eq_true, if_false, List.isEmpty_iff, hc,
    if_true]
  rfl

theorem apply_of_no_source (h : c.target.refersTo ins.table none = true) (ho : c.Listable ins)
    (hs : ins.source = none) : c.apply ins = .error (.missingInsertSource ins.table.render) := by
  simp only [apply, h, ho.any_eq_false, Bool.not_true, Bool.false_eq_true, if_false, List.isEmpty_iff, ho.1, hs]
  rfl

theorem apply_of_not_values (h : c.target.refersTo ins.table none = true) (ho : c.Listable ins)
    {q : Query} (hs : ins.source = some q) (hb : q.body.isValues = false) :
    c.apply ins = .error (.unsupportedInsertSource ins.table.render (sourceKind q.body)) := by
  simp only [apply, h, ho.any_eq_false, Bool.not_true, Bool.false_eq_true, if_false, List.isEmpty_iff, ho.1, hs]
  rcases q with ⟨r, cs, body, o, l, ft, k, fc⟩
  cases body with
  | values => cases hb
  | select | query | setOp | table | dml => rfl

/-- An insert that passes the column checks and has a `VALUES` list gets the column and
whatever rows the list gives. -/
theorem apply_of_values (h : c.target.refersTo ins.table none = true) (ho : c.Listable ins)
    {q : Query} {x kw : Bool} {rows : List Row} (hs : ins.source = some q)
    (hb : q.body = .values x kw rows) :
    c.apply ins = (appendValue ins.table.render c.value.toExpr rows).bind fun rows' =>
      .ok (some { ins with
        columns := ins.columns ++ [c.column]
        source := some (q.withParts q.ctes (.values x kw rows')) }) := by
  simp only [apply, h, ho.any_eq_false, Bool.not_true, Bool.false_eq_true, if_false, List.isEmpty_iff, ho.1, hs]
  rcases q with ⟨r, cs, body, o, l, ft, k, fc⟩
  cases hb
  rfl

variable {c ins}

/-- A failing fill fails at its first failing check. -/
theorem rejects_of_apply {e : RewriteError} (h : c.target.refersTo ins.table none = true)
    (he : c.apply ins = .error e) : c.Rejects ins e := by
  by_cases hc : ins.columns = []
  · rw [apply_of_columns_nil c ins h hc] at he
    cases he
    exact .noColumns hc
  by_cases hl : ∃ col ∈ ins.columns, namesEqual col.value c.column.value = true
  · rw [apply_of_listed c ins h hc hl] at he
    cases he
    exact .listed hc hl
  have ho : c.Listable ins := listable_of hc hl
  cases hs : ins.source with
  | none =>
    rw [apply_of_no_source c ins h ho hs] at he
    cases he
    exact .noSource ho hs
  | some q =>
    cases hb : q.body.isValues with
    | false =>
      rw [apply_of_not_values c ins h ho hs hb] at he
      cases he
      exact .notValues ho hs hb
    | true =>
      -- a `VALUES` source fails only in the rows
      obtain ⟨x, kw, rows, hv⟩ := SetExpr.isValues_eq_true.mp hb
      rw [apply_of_values c ins h ho hs hv] at he
      cases ha : appendValue ins.table.render c.value.toExpr rows with
      | ok rows' =>
        rw [ha] at he
        cases he
      | error e' =>
        rw [ha] at he
        cases he
        obtain ⟨items, rfl, hled, before, bad, after, hsplit, hbefore, hbad, rfl⟩ :=
          (appendValue_eq_error_iff _ _ _ _).mp ha
        exact .notCall ho hs hv hled hsplit hbefore hbad

/-- Each failing check gives its error. -/
theorem apply_of_rejects {e : RewriteError} (h : c.target.refersTo ins.table none = true)
    (hr : c.Rejects ins e) : c.apply ins = .error e := by
  cases hr with
  | noColumns hc => exact apply_of_columns_nil c ins h hc
  | listed hc hl => exact apply_of_listed c ins h hc hl
  | noSource ho hs => exact apply_of_no_source c ins h ho hs
  | notValues ho hs hb => exact apply_of_not_values c ins h ho hs hb
  | notCall ho hs hv hled hsplit hbefore hbad =>
    rw [apply_of_values c ins h ho hs hv,
      (appendValue_eq_error_iff _ _ _ _).mpr ⟨_, rfl, hled, _, _, _, hsplit, hbefore, hbad, rfl⟩]
    rfl

/-- Some check fails exactly when one of the five conditions holds, whichever comes first. -/
theorem exists_rejects_iff :
    (∃ e, c.Rejects ins e) ↔
      ins.columns = [] ∨ (∃ col ∈ ins.columns, namesEqual col.value c.column.value = true) ∨
        ins.source = none ∨ (∃ q, ins.source = some q ∧ q.body.isValues = false) ∨
        ∃ q x kw items, ins.source = some q ∧ q.body = .values x kw [.mk items] ∧ LedByCall items ∧
          ∃ b ∈ items, isCallWithArgs b = false := by
  constructor
  · rintro ⟨e, hr⟩
    cases hr with
    | noColumns hc => exact .inl hc
    | listed _ hl => exact .inr (.inl hl)
    | noSource _ hs => exact .inr (.inr (.inl hs))
    | notValues _ hs hb => exact .inr (.inr (.inr (.inl ⟨_, hs, hb⟩)))
    | @notCall q x kw items before after bad _ hs hv hled hsplit _ hbad =>
      exact .inr (.inr (.inr (.inr ⟨q, x, kw, items, hs, hv, hled, bad, by simp [hsplit], hbad⟩)))
  · intro hcond
    -- the checks are made in order, so the first condition that holds decides the error
    by_cases hc : ins.columns = []
    · exact ⟨_, .noColumns hc⟩
    by_cases hl : ∃ col ∈ ins.columns, namesEqual col.value c.column.value = true
    · exact ⟨_, .listed hc hl⟩
    have ho : c.Listable ins := listable_of hc hl
    rcases hcond with hc' | hl' | hs | ⟨q, hs, hb⟩ | ⟨q, x, kw, items, hs, hv, hled, b, hb, hbad⟩
    · exact absurd hc' hc
    · exact absurd hl' hl
    · exact ⟨_, .noSource ho hs⟩
    · exact ⟨_, .notValues ho hs hb⟩
    · have hfind : (items.find? fun e => !isCallWithArgs e).isSome = true :=
        List.find?_isSome.mpr ⟨b, hb, by simp [hbad]⟩
      obtain ⟨bad, hbad'⟩ := Option.isSome_iff_exists.mp hfind
      obtain ⟨hbad'', before, after, hsplit, hbefore⟩ := List.find?_eq_some_iff_append.mp hbad'
      exact ⟨_, .notCall ho hs hv hled hsplit (fun b hb => by simpa using hbefore b hb)
        (by simpa using hbad'')⟩

variable (c ins)

/-- A fill leaves an insert into another table as it is. Into its own table, it fails
exactly when one of five checks fails, and then with the error of the first one, in the
order: no column list, the column already listed, no source, a source that is not a
`VALUES` list, a single row led by a call with an item that is not a call with an argument
list. A failure gives no insert. -/
theorem apply_fails_iff :
    (c.target.refersTo ins.table none = false → c.apply ins = .ok none) ∧
    (∀ e, c.apply ins = .error e ↔ c.target.refersTo ins.table none = true ∧ c.Rejects ins e) ∧
    ((∃ e, c.apply ins = .error e) ↔ c.target.refersTo ins.table none = true ∧
      (ins.columns = [] ∨ (∃ col ∈ ins.columns, namesEqual col.value c.column.value = true) ∨
        ins.source = none ∨ (∃ q, ins.source = some q ∧ q.body.isValues = false) ∨
        ∃ q x kw items, ins.source = some q ∧ q.body = .values x kw [.mk items] ∧ LedByCall items ∧
          ∃ b ∈ items, isCallWithArgs b = false)) := by
  have herr : ∀ e, c.apply ins = .error e ↔
      c.target.refersTo ins.table none = true ∧ c.Rejects ins e := by
    intro e
    cases h : c.target.refersTo ins.table none with
    | false =>
      rw [apply_of_not_refersTo c ins h]
      simp
    | true => exact ⟨fun he => ⟨rfl, rejects_of_apply h he⟩, fun ⟨_, hr⟩ => apply_of_rejects h hr⟩
  refine ⟨apply_of_not_refersTo c ins, herr, ?_⟩
  simp only [herr]
  exact ⟨fun ⟨_, h, hr⟩ => ⟨h, exists_rejects_iff.mp ⟨_, hr⟩⟩,
    fun ⟨h, hcond⟩ => (exists_rejects_iff.mpr hcond).imp fun _ hr => ⟨h, hr⟩⟩

/-- A fill that succeeds passed every check: the insert is into its table, its column list
can take the column, and its source is a `VALUES` list. -/
theorem checks_of_apply {ins' : Insert} (h : c.apply ins = .ok (some ins')) :
    c.target.refersTo ins.table none = true ∧ c.Listable ins ∧
      ∃ q x kw rows, ins.source = some q ∧ q.body = .values x kw rows := by
  have href : c.target.refersTo ins.table none = true := by
    cases hr : c.target.refersTo ins.table none with
    | false =>
      rw [apply_of_not_refersTo c ins hr] at h
      cases h
    | true => rfl
  -- a check that failed would have given its error
  have hnone : ¬ ∃ e, c.Rejects ins e := by
    rintro ⟨e, hr⟩
    rw [apply_of_rejects href hr] at h
    cases h
  rw [exists_rejects_iff] at hnone
  simp only [not_or, not_exists, not_and] at hnone
  obtain ⟨hc, hl, hs, hb, -⟩ := hnone
  refine ⟨href, ⟨hc, fun col hcol => by simpa using hl col hcol⟩, ?_⟩
  cases hsrc : ins.source with
  | none => exact absurd hsrc hs
  | some q =>
    obtain ⟨x, kw, rows, hv⟩ := SetExpr.isValues_eq_true.mp (by simpa using hb q hsrc)
    exact ⟨q, x, kw, rows, rfl, hv⟩

/-- A successful fill adds the column once, at the end of the column list, and the value to
the `VALUES` list by its shape; it changes nothing else. Rows as long as the column list stay
so when the list has a row and is not a single row led by a call. -/
theorem apply_adds_column {ins' : Insert} (h : c.apply ins = .ok (some ins')) :
    ∃ q x kw rows rows', ins.source = some q ∧ q.body = .values x kw rows ∧
      ins' = { ins with
        columns := ins.columns ++ [c.column]
        source := some (q.withParts q.ctes (.values x kw rows')) } ∧
      TakesValue c.value.toExpr rows rows' ∧
      (ins'.columns.filter fun col => namesEqual col.value c.column.value).length = 1 ∧
      (rows ≠ [] → (¬ ∃ items, rows = [.mk items] ∧ LedByCall items) →
        (∀ row ∈ rows, row.items.length = ins.columns.length) →
        ∀ row ∈ rows', row.items.length = ins'.columns.length) := by
  obtain ⟨href, ho, q, x, kw, rows, hs, hv⟩ := checks_of_apply c ins h
  rw [apply_of_values c ins href ho hs hv] at h
  cases ha : appendValue ins.table.render c.value.toExpr rows with
  | error e =>
    rw [ha] at h
    cases h
  | ok rows' =>
    rw [ha] at h
    cases h
    have htakes := takesValue_of_appendValue ha
    -- no listed column is the new one, and the new one is itself
    have hnone : (ins.columns.filter fun col => namesEqual col.value c.column.value) = [] :=
      List.filter_eq_nil_iff.mpr fun col hcol => by simp [ho.2 col hcol]
    have hcount : ((ins.columns ++ [c.column]).filter fun col =>
        namesEqual col.value c.column.value).length = 1 := by
      simp [List.filter_append, hnone]
    refine ⟨q, x, kw, rows, rows', hs, hv, rfl, htakes, hcount, ?_⟩
    intro hne hcall hn row hrow
    simpa using htakes.length_items hne hcall hn row hrow

/-- `INSERT INTO tenant (name) VALUES ('a'), ('b')` takes `tenant_id` and `'T1'` at the end of
each row. -/
theorem apply_adds_column_to_batch :
    let c : ColumnFill := ⟨⟨"tenant", ["tenant"]⟩, ⟨"tenant_id", none⟩, .text "T1"⟩
    let q : Query := .mk false []
      (.values false true [.mk [.value (.singleQuoted "a")], .mk [.value (.singleQuoted "b")]])
      [] .none none [] none
    let ins : Insert := { table := ⟨[⟨"tenant", none⟩]⟩, columns := [⟨"name", none⟩], source := some q }
    let ins' : Insert := { ins with
      columns := [⟨"name", none⟩, ⟨"tenant_id", none⟩]
      source := some (q.withParts [] (.values false true
        [.mk [.value (.singleQuoted "a"), .value (.singleQuoted "T1")],
         .mk [.value (.singleQuoted "b"), .value (.singleQuoted "T1")]])) }
    c.apply ins = .ok (some ins') ∧
      ∃ q x kw rows rows', ins.source = some q ∧ q.body = .values x kw rows ∧
        ins' = { ins with
          columns := ins.columns ++ [c.column]
          source := some (q.withParts q.ctes (.values x kw rows')) } ∧
        TakesValue c.value.toExpr rows rows' ∧
        (ins'.columns.filter fun col => namesEqual col.value c.column.value).length = 1 ∧
        (rows ≠ [] → (¬ ∃ items, rows = [.mk items] ∧ LedByCall items) →
          (∀ row ∈ rows, row.items.length = ins.columns.length) →
          ∀ row ∈ rows', row.items.length = ins'.columns.length) := by
  intro c q ins ins'
  have h : c.apply ins = .ok (some ins') := by
    rw [apply_of_values c ins (by decide) ⟨by decide, by decide⟩ rfl rfl]
    rfl
  exact ⟨h, apply_adds_column c ins h⟩

/-- A `VALUES` list of no rows takes a row of the value alone, while the column list, which
had a column, gets a second: rows as long as the column list are kept so only where the
list has a row. -/
theorem apply_empty_values {ins' : Insert} {q : Query} {x kw : Bool}
    (h : c.apply ins = .ok (some ins')) (hs : ins.source = some q) (hv : q.body = .values x kw []) :
    ins'.source = some (q.withParts q.ctes (.values x kw [.mk [c.value.toExpr]])) ∧
      [c.value.toExpr].length < ins'.columns.length := by
  obtain ⟨href, ho, -⟩ := checks_of_apply c ins h
  have hrow : appendValue ins.table.render c.value.toExpr [] = .ok [.mk [c.value.toExpr]] := rfl
  rw [apply_of_values c ins href ho hs hv, hrow] at h
  cases h
  have hlisted : 0 < ins.columns.length := List.length_pos_iff.mpr ho.1
  refine ⟨rfl, ?_⟩
  simp only [List.length_append, List.length_singleton]
  omega

/-- The arity match fails on an empty `VALUES` list: every row of it (there are none) has as
many values as the one listed column, but the fill turns it into the single row of the value
alone, one value for two columns. -/
theorem empty_values_breaks_arity :
    let c : ColumnFill := ⟨⟨"tenant", ["tenant"]⟩, ⟨"tenant_id", none⟩, .text "T1"⟩
    let q : Query := .mk false [] (.values false false []) [] .none none [] none
    let ins : Insert := { table := ⟨[⟨"tenant", none⟩]⟩, columns := [⟨"name", none⟩], source := some q }
    ∃ ins', c.apply ins = .ok (some ins') ∧
      ins'.source = some (q.withParts [] (.values false false [.mk [c.value.toExpr]])) ∧
      [c.value.toExpr].length ≠ ins'.columns.length := by
  intro c q ins
  -- the fill passes its checks on this insert; what it gives is read off `apply_empty_values`
  obtain ⟨ins', h⟩ : ∃ ins', c.apply ins = .ok (some ins') :=
    ⟨_, by rw [apply_of_values c ins (by decide) ⟨by decide, by decide⟩ rfl rfl]; rfl⟩
  obtain ⟨hsrc, hlen⟩ := apply_empty_values c ins h rfl rfl
  exact ⟨ins', h, hsrc, Nat.ne_of_lt hlen⟩

end ColumnFill

end SqlScope.Scope
