import SqlScope.Proofs.ReadBack.Operands

/-!
# The operator loop

`parseSubexpr` reads an operand, its dotted continuation, and then infix operators
for as long as the next one binds tighter than the level it was called at: the
loop of a precedence-climbing parser. This module says what one round of that
loop does at the tokens of a merged condition (`AND`, `=`, `OR`, a closing
parenthesis, the end of input), what the dotted continuation makes of `q.c`, and
how the two literals that take more than a plain value token are read: a negative
number is a minus sign applied to its digits, and `true` in a dialect without
boolean literals is a name.
-/

namespace SqlScope.Sql.Parser

variable {env : ParseEnv} {i j k : Nat}

/-- The tokens that end an expression of a merged condition: the `)` of the group
around it, or the end of input. -/
def EndsExpr (t : Token) : Prop := t = .sym ")" ∨ t = .eof

theorem EndsExpr.afterWord {t : Token} (h : EndsExpr t) : AfterWord t :=
  h.elim (fun h => Or.inr (Or.inr (Or.inl h))) (fun h => Or.inr (Or.inr (Or.inr h)))

theorem EndsExpr.endsTypeName (h : EndsExpr (tokenAt env k)) : EndsTypeName env k :=
  h.elim (fun h => Or.inr (Or.inl h)) (fun h => Or.inr (Or.inr (Or.inl h)))

/-! ## Binding strengths -/

theorem nextPrecedence_end (h : EndsExpr (tokenAt env i)) : nextPrecedence env i = .ok (0, i) := by
  unfold nextPrecedence
  rw [run_bind_ok dialect_run, run_bind_ok peekToken_run]
  rcases h with h | h <;> rw [h] <;> cases env.dialect <;> rfl

theorem nextPrecedence_eq (h : tokenAt env i = .sym "=") :
    nextPrecedence env i = .ok (Level.value env.dialect .eq, i) := by
  unfold nextPrecedence
  rw [run_bind_ok dialect_run, run_bind_ok peekToken_run, h]
  cases env.dialect <;> rfl

/-! ## One round of the loop -/

/-- An infix operator of the merged conditions, with its right operand read at the
operator's own binding strength. -/
theorem parseInfix_binary (n : Nat) (e : Expr) (p : Nat) {t : Token} {op : BinOp} {r : Expr}
    (ht : tokenAt env i = t)
    (htok : t = .sym "=" ∨ t = .word "AND" none ∨ t = .word "OR" none)
    (hop : binaryOperator env.dialect t = some op)
    (hq : ["ANY", "ALL", "SOME"].find? (tokenAt env (i + 1)).isKeyword = none)
    (hr : parseSubexpr n p env (i + 1) = .ok (r, j)) :
    parseInfix (n + 1) e p env i = .ok (.binary e op r, j) := by
  have hoper : t.isKeyword "OPERATOR" = false := by rcases htok with rfl | rfl | rfl <;> rfl
  have ht' : (env.tokens.getD i eofToken).token = t := ht
  rw [parseInfix.eq_def]
  simp only
  rw [run_bind_ok dialect_run]
  by_cases hs : (env.dialect == Dialect.sqlite) = true
  all_goals first
    | rw [if_pos hs, run_bind_ok peekToken_run, ht]
      -- SQLite first looks for `REGEXP` and `MATCH`, which none of these tokens is
      rcases htok with rfl | rfl | rfl <;> change (next >>= _) env i = _
    | rw [if_neg hs]
  all_goals
    rw [run_bind_ok next_run, ht', hoper]
    simp only [Bool.false_and, Bool.false_eq_true, ↓reduceIte]
    rw [run_bind_ok (run_pure _), hop]
    simp only
    rw [run_bind_ok (parseOneOfKeywords_none hq)]
    simp only
    rw [run_bind_ok hr]
    rfl

/-- One round of the operator loop of `parseSubexpr` at level `minPrec`. -/
def infixStep (n minPrec : Nat) (e : Expr) : Parser (Option Expr) := do
  let p ← nextPrecedence
  if minPrec ≥ p then return none
  if ← peekSym "." then return none
  return some (← parseInfix n e p)

theorem parseSubexpr_eq (n minPrec : Nat) :
    parseSubexpr (n + 1) minPrec = nested (do
      let e ← parsePrefix n
      let e ← parseCompound n e
      iterate (infixStep n minPrec) e) := rfl

theorem infixStep_stop {n minPrec p : Nat} (e : Expr) (hp : nextPrecedence env i = .ok (p, i))
    (hm : p ≤ minPrec) : infixStep n minPrec e env i = .ok (none, i) := by
  unfold infixStep
  rw [run_bind_ok hp, if_pos hm]
  rfl

theorem infixStep_operator {n minPrec p : Nat} {e r : Expr} (hp : nextPrecedence env i = .ok (p, i))
    (hm : minPrec < p) (hdot : (tokenAt env i == .sym ".") = false)
    (hi : parseInfix n e p env i = .ok (r, j)) : infixStep n minPrec e env i = .ok (some r, j) := by
  unfold infixStep
  rw [run_bind_ok hp, if_neg (Nat.not_le.mpr hm), run_bind_ok (peekSym_run "."), hdot]
  simp only [Bool.false_eq_true, ↓reduceIte]
  rw [run_bind_ok hi]
  rfl

/-! ## Dotted continuations -/

/-- An expression followed by neither `[` nor `.` has no continuation. -/
theorem parseCompound_none (n : Nat) (root : Expr) (h1 : (tokenAt env i == .sym "[") = false)
    (h2 : (tokenAt env i == .sym ".") = false) : parseCompound (n + 1) root env i = .ok (root, i) := by
  rw [parseCompound.eq_def]
  simp only
  rw [run_bind_ok dialect_run, run_bind_ok (prec_run _), run_bind_ok (iterate_stop ?step)]
  case step =>
    simp only [Bool.false_eq_true, ↓reduceIte]
    rw [run_bind_ok (consumeSym_of_ne h1), if_neg Bool.false_ne_true,
      run_bind_ok (peekSym_run "."), h2]
    rfl
  rfl

/-- A name followed by `.` and a column name is the qualified column `q.c`; the column
is read by the whole expression grammar at the binding strength of the period. -/
theorem parseCompound_column (n : Nat) (q : Ident) {v : String} {qc : Option Char}
    (hd : tokenAt env i = .sym ".") (hw : tokenAt env (i + 1) = .word v qc)
    (hcol : parseSubexpr n (Level.value env.dialect .period) env (i + 1) =
      .ok (.ident ⟨v, qc⟩, i + 2))
    (h1 : (tokenAt env (i + 2) == .sym "[") = false)
    (h2 : (tokenAt env (i + 2) == .sym ".") = false) :
    parseCompound (n + 1) (.ident q) env i = .ok (.compound [q, ⟨v, qc⟩], i + 2) := by
  have hsize : env.tokens.size ≠ 0 :=
    Nat.ne_zero_of_lt (lt_size_of_ne_eof (word_ne_eof hw))
  have hw' : (env.tokens.getD (i + 1) eofToken).token = .word v qc := hw
  rw [parseCompound.eq_def]
  simp only
  rw [run_bind_ok dialect_run, run_bind_ok (prec_run _),
    run_bind_ok (iterate_once hsize ?first ?second)]
  case first =>
    simp only [Bool.false_eq_true, ↓reduceIte]
    rw [run_bind_ok (consumeSym_of_ne (by rw [hd]; rfl)), if_neg Bool.false_ne_true,
      run_bind_ok (peekSym_run "."), hd, beq_sym_self]
    simp only [Bool.not_true, Bool.false_eq_true, ↓reduceIte]
    have hstar : (Token.word v qc == Token.sym "*") = false := rfl
    rw [run_bind_ok peekAt_run, hw', hstar, if_neg Bool.false_ne_true, run_bind_ok advance_run]
    simp only
    rw [run_bind_ok hcol]
    rfl
  case second =>
    simp only [Bool.false_eq_true, ↓reduceIte]
    rw [run_bind_ok (consumeSym_of_ne h1), if_neg Bool.false_ne_true,
      run_bind_ok (peekSym_run "."), h2]
    rfl
  rfl

/-! ## Whole expressions -/

@[simp] theorem tokenAt_deeper : tokenAt env.deeper k = tokenAt env k := rfl

@[simp] theorem tokens_deeper : env.deeper.tokens = env.tokens := rfl

/-- An operand with no continuation, after which no operator binds tighter than
`minPrec`, is the whole expression. -/
theorem parseSubexpr_atom (n minPrec : Nat) {e : Expr} {p : Nat} (hb : env.budget ≠ 0)
    (hp : parsePrefix (n + 1) env.deeper i = .ok (e, j))
    (h1 : (tokenAt env j == .sym "[") = false) (h2 : (tokenAt env j == .sym ".") = false)
    (hnext : nextPrecedence env.deeper j = .ok (p, j)) (hm : p ≤ minPrec) :
    parseSubexpr (n + 1 + 1) minPrec env i = .ok (e, j) := by
  have h1' : (tokenAt env.deeper j == .sym "[") = false := h1
  have h2' : (tokenAt env.deeper j == .sym ".") = false := h2
  rw [parseSubexpr_eq, nested_run hb, run_bind_ok hp, run_bind_ok (parseCompound_none n e h1' h2')]
  exact iterate_stop (infixStep_stop e hnext hm)

/-- An operand followed by what ends an expression is the whole expression. -/
theorem parseSubexpr_operand (n minPrec : Nat) {e : Expr} (hb : env.budget ≠ 0)
    (hp : parsePrefix (n + 1) env.deeper i = .ok (e, j)) (he : EndsExpr (tokenAt env j)) :
    parseSubexpr (n + 1 + 1) minPrec env i = .ok (e, j) :=
  parseSubexpr_atom n minPrec hb hp (by rcases he with h | h <;> rw [h] <;> rfl)
    (by rcases he with h | h <;> rw [h] <;> rfl) (nextPrecedence_end he) (Nat.zero_le _)

theorem parseSubexpr_number (n minPrec : Nat) {s : String} {long : Bool} (hb : env.budget ≠ 0)
    (h : tokenAt env i = .number s long) (he : EndsExpr (tokenAt env (i + 1))) :
    parseSubexpr (n + 1 + 1 + 1) minPrec env i = .ok (.value (.number s), i + 1) :=
  parseSubexpr_operand _ minPrec hb
    (parsePrefix_not_word _ (by intro v q; rw [tokenAt_deeper, h]; exact Token.noConfusion)
      (parseOperand_value n h (Or.inl ⟨s, long, rfl⟩) (parseValue_number h))
      (by rcases he with h | h <;> rw [tokenAt_deeper, h] <;> rfl))
    he

/-- A quoted string before an operator that binds no tighter than `minPrec`, or before
another token of no operator, is read as that string. -/
theorem parseSubexpr_string_before (n minPrec : Nat) {s : String} {p : Nat} (hb : env.budget ≠ 0)
    (h : tokenAt env i = .singleQuoted s) (hns : NoString (tokenAt env (i + 1)))
    (hc : (tokenAt env (i + 1)).isKeyword "COLLATE" = false)
    (h1 : (tokenAt env (i + 1) == .sym "[") = false) (h2 : (tokenAt env (i + 1) == .sym ".") = false)
    (hnext : nextPrecedence env.deeper (i + 1) = .ok (p, i + 1)) (hm : p ≤ minPrec) :
    parseSubexpr (n + 1 + 1 + 1) minPrec env i = .ok (.value (.singleQuoted s), i + 1) :=
  parseSubexpr_atom _ minPrec hb
    (parsePrefix_not_word _ (by intro v q; rw [tokenAt_deeper, h]; exact Token.noConfusion)
      (parseOperand_value n h (Or.inr ⟨s, rfl⟩) (parseValue_singleQuoted h hns)) hc)
    h1 h2 hnext hm

theorem parseSubexpr_string (n minPrec : Nat) {s : String} (hb : env.budget ≠ 0)
    (h : tokenAt env i = .singleQuoted s) (he : EndsExpr (tokenAt env (i + 1))) :
    parseSubexpr (n + 1 + 1 + 1) minPrec env i = .ok (.value (.singleQuoted s), i + 1) :=
  parseSubexpr_string_before n minPrec hb h he.afterWord.noString he.afterWord.isKeyword
    (by rcases he with h | h <;> rw [h] <;> rfl) (by rcases he with h | h <;> rw [h] <;> rfl)
    (nextPrecedence_end he) (Nat.zero_le _)

theorem parseSubexpr_null (n minPrec : Nat) (hb : env.budget ≠ 0)
    (h : tokenAt env i = .word "NULL" none) (he : EndsExpr (tokenAt env (i + 1))) :
    parseSubexpr (n + 1 + 1 + 1 + 1) minPrec env i = .ok (.value .null, i + 1) :=
  parseSubexpr_operand _ minPrec hb
    (parsePrefix_word _ h he.endsTypeName
      (parseOperand_reserved n h (fun _ ht => prefixByReservedWord_null n ht h))
      he.afterWord.isKeyword)
    he

/-- `true` and `false` read as boolean literals where the dialect has them, and as
names where it does not. -/
theorem parseSubexpr_boolean (n minPrec : Nat) {b : Bool} (hb : env.budget ≠ 0)
    (h : tokenAt env i = .word (if b then "true" else "false") none)
    (he : EndsExpr (tokenAt env (i + 1))) :
    parseSubexpr (n + 1 + 1 + 1 + 1) minPrec env i =
      .ok (if env.dialect.hasBooleanLiterals then .value (.boolean b)
        else .ident ⟨if b then "true" else "false", none⟩, i + 1) := by
  have hres := fun (t : Located) (ht : t.token = .word (if b then "true" else "false") none) =>
    prefixByReservedWord_boolean n ht
      (show tokenAt env.deeper i = .word (if b then "true" else "false") none from h)
  cases hl : env.dialect.hasBooleanLiterals
  · simp only [hl, Bool.false_eq_true, ↓reduceIte] at hres
    exact parseSubexpr_operand _ minPrec hb
      (parsePrefix_word _ h he.endsTypeName (parseOperand_unreserved n h hres he.afterWord)
        he.afterWord.isKeyword) he
  · simp only [hl, ↓reduceIte] at hres
    exact parseSubexpr_operand _ minPrec hb
      (parsePrefix_word _ h he.endsTypeName (parseOperand_reserved n h hres)
        he.afterWord.isKeyword) he

/-- A minus sign before a number reads as the sign applied to the number. -/
theorem parseSubexpr_negative (n minPrec : Nat) {s : String} {long : Bool}
    (hb : 2 ≤ env.budget) (hm : tokenAt env i = .sym "-")
    (h : tokenAt env (i + 1) = .number s long) (he : EndsExpr (tokenAt env (i + 1 + 1))) :
    parseSubexpr (n + 3 + 1 + 1 + 1) minPrec env i =
      .ok (.unary .minus (.value (.number s)), i + 1 + 1) :=
  parseSubexpr_operand _ minPrec (by omega)
    (parsePrefix_not_word _ (by intro v q; rw [tokenAt_deeper, hm]; exact Token.noConfusion)
      (parseOperand_minus _ hm (parseSubexpr_number n _ (show env.budget - 1 ≠ 0 by omega) h he))
      (by rcases he with h | h <;> rw [tokenAt_deeper, h] <;> rfl))
    he

theorem eq_le_period (d : Dialect) : Level.value d .eq ≤ Level.value d .period := by
  cases d <;> decide

/-- A column name after the period of a qualified column, followed by `=`. -/
theorem parseSubexpr_column (n : Nat) {v : String} {q : Option Char} (hb : env.budget ≠ 0)
    (hw : tokenAt env i = .word v q) (hv : PlainWord v q) (heq : tokenAt env (i + 1) = .sym "=") :
    parseSubexpr (n + 1 + 1 + 1 + 1) (Level.value env.dialect .period) env i =
      .ok (.ident ⟨v, q⟩, i + 1) :=
  parseSubexpr_atom _ _ hb (parsePrefix_name n hw hv (Or.inl heq)) (by rw [heq]; rfl)
    (by rw [heq]; rfl) (nextPrecedence_eq heq) (eq_le_period _)

theorem binaryOperator_eq (d : Dialect) : binaryOperator d (.sym "=") = some .eq := by
  cases d <;> rfl

/-- A qualified column `q.c`, and then the operator loop from the token after it. -/
theorem parseSubexpr_qualified (n minPrec : Nat) {vq vc : String} {qq qc : Option Char} {e : Expr}
    (hb : 2 ≤ env.budget) (hq : tokenAt env i = .word vq qq) (hvq : PlainWord vq qq)
    (hd : tokenAt env (i + 1) = .sym ".") (hc : tokenAt env (i + 2) = .word vc qc)
    (hvc : PlainWord vc qc) (heq : tokenAt env (i + 3) = .sym "=")
    (hloop : iterate (infixStep (n + 5) minPrec) (.compound [⟨vq, qq⟩, ⟨vc, qc⟩]) env.deeper
      (i + 3) = .ok (e, j)) :
    parseSubexpr (n + 6) minPrec env i = .ok (e, j) := by
  have hcol : parseSubexpr (n + 4) (Level.value env.dialect .period) env.deeper (i + 2) =
      .ok (.ident ⟨vc, qc⟩, i + 3) :=
    parseSubexpr_column n (show env.budget - 1 ≠ 0 by omega) hc hvc heq
  have heq' : tokenAt env.deeper (i + 1 + 2) = .sym "=" := heq
  have hqual : parsePrefix (n + 5) env.deeper i = .ok (.ident ⟨vq, qq⟩, i + 1) :=
    parsePrefix_name (n + 2) hq hvq (Or.inr (Or.inr (Or.inr ⟨hd, ⟨vc, qc, hc⟩, heq⟩)))
  have hcomp : parseCompound (n + 5) (.ident ⟨vq, qq⟩) env.deeper (i + 1) =
      .ok (.compound [⟨vq, qq⟩, ⟨vc, qc⟩], i + 3) :=
    parseCompound_column (n + 4) _ hd hc hcol (by rw [heq']; rfl) (by rw [heq']; rfl)
  rw [parseSubexpr_eq, nested_run (by omega), run_bind_ok hqual, run_bind_ok hcomp]
  exact hloop

/-- A merged condition `q.c = literal` read at a level below that of `=`: the
qualified column, then `=` with the literal as its right operand, up to what ends
the expression. -/
theorem parseSubexpr_conjunct (n minPrec : Nat) {vq vc : String} {qq qc : Option Char}
    {l : Expr} (hb : 3 ≤ env.budget) (hm : minPrec < Level.value env.dialect .eq)
    (hq : tokenAt env i = .word vq qq) (hvq : PlainWord vq qq) (hd : tokenAt env (i + 1) = .sym ".")
    (hc : tokenAt env (i + 2) = .word vc qc) (hvc : PlainWord vc qc)
    (heq : tokenAt env (i + 3) = .sym "=")
    (hkw : ["ANY", "ALL", "SOME"].find? (tokenAt env (i + 4)).isKeyword = none)
    (hlit : parseSubexpr (n + 4) (Level.value env.dialect .eq) env.deeper (i + 4) = .ok (l, j))
    (he : EndsExpr (tokenAt env j)) :
    parseSubexpr (n + 6) minPrec env i =
      .ok (.binary (.compound [⟨vq, qq⟩, ⟨vc, qc⟩]) .eq l, j) := by
  have hsize : env.tokens.size ≠ 0 := Nat.ne_zero_of_lt (lt_size_of_ne_eof (word_ne_eof hq))
  exact parseSubexpr_qualified n minPrec (by omega) hq hvq hd hc hvc heq
    (iterate_once hsize
      (infixStep_operator (nextPrecedence_eq heq) hm (by rw [tokenAt_deeper, heq]; rfl)
        (parseInfix_binary _ _ _ heq (Or.inl rfl) (binaryOperator_eq _) hkw hlit))
      (infixStep_stop _ (nextPrecedence_end he) (Nat.zero_le _)))

/-! ## Groups and conjunctions -/

end SqlScope.Sql.Parser
