import SqlScope.Sql.Parser.Grammar

/-!
# Following a parse step by step

The grammar runs in `Parser`: it reads the environment (dialect, tokens, recursion
budget) and keeps the index of the next token as its state, so `p env i` is what
`p` answers when started at index `i`. The lemmas here say what each primitive
step answers at a given index. A run over known tokens is then followed one step
at a time: `run_bind_ok` passes a step that succeeded on to the rest of the block,
and `run_bind_error` stops at one that failed.

`TokensAt env i ts` says that the tokens from index `i` on begin with `ts`; the
statements about longer parses take their tokens from it.
-/

namespace SqlScope.Sql

/-- The environment of a parse one level deeper, as `Parser.nested` runs it. -/
abbrev ParseEnv.deeper (env : ParseEnv) : ParseEnv := { env with budget := env.budget - 1 }

namespace Parser

variable {α β σ : Type} {env : ParseEnv} {i j k : Nat}

/-- The token at index `k`: the end of input past the last one. -/
def tokenAt (env : ParseEnv) (k : Nat) : Token := (env.tokens.getD k eofToken).token

/-- The tokens from index `i` on begin with `ts`. -/
def TokensAt (env : ParseEnv) : Nat → List Token → Prop
  | _, [] => True
  | i, t :: ts => tokenAt env i = t ∧ TokensAt env (i + 1) ts

@[simp] theorem tokensAt_nil : TokensAt env i [] := trivial

@[simp] theorem tokensAt_cons {t : Token} {ts : List Token} :
    TokensAt env i (t :: ts) ↔ tokenAt env i = t ∧ TokensAt env (i + 1) ts := Iff.rfl

theorem tokensAt_append {xs ys : List Token} :
    TokensAt env i (xs ++ ys) ↔ TokensAt env i xs ∧ TokensAt env (i + xs.length) ys := by
  induction xs generalizing i with
  | nil => simp
  | cons x xs ih =>
    simp only [List.cons_append, tokensAt_cons, ih, List.length_cons]
    rw [Nat.add_assoc, Nat.add_comm 1 xs.length, and_assoc]

/-! ## Sequencing -/

theorem run_bind_ok {x : Parser α} {f : α → Parser β} {a : α} (h : x env i = .ok (a, j)) :
    (x >>= f) env i = f a env j := by
  show (x env i >>= fun p => f p.1 env p.2) = _
  rw [h]; rfl

theorem run_bind_error {x : Parser α} {f : α → Parser β} {e : ParseError}
    (h : x env i = .error e) : (x >>= f) env i = .error e := by
  show (x env i >>= fun p => f p.1 env p.2) = _
  rw [h]; rfl

theorem run_pure (a : α) : (pure a : Parser α) env i = .ok (a, i) := rfl

theorem run_throw (e : ParseError) : (throw e : Parser α) env i = .error e := rfl

/-! ## The primitive steps -/

theorem dialect_run : dialect env i = .ok (env.dialect, i) := rfl

theorem read_run : (read : Parser ParseEnv) env i = .ok (env, i) := rfl

theorem peek_run : peek env i = .ok (env.tokens.getD i eofToken, i) := rfl

theorem peekToken_run : peekToken env i = .ok (tokenAt env i, i) := rfl

theorem peekAt_run : peekAt k env i = .ok (env.tokens.getD (i + k) eofToken, i) := rfl

theorem next_run : next env i = .ok (env.tokens.getD i eofToken, i + 1) := rfl

theorem get_run : (get : Parser Nat) env i = .ok (i, i) := rfl

theorem advance_run : advance env i = .ok ((), i + 1) := rfl

theorem back_run : back env i = .ok ((), i - 1) := rfl

theorem prec_run (l : Level) : prec l env i = .ok (l.value env.dialect, i) := rfl

theorem failWith_run (m : String) : (failWith m : Parser α) env i = .error (.message m i) := rfl

theorem beq_sym_self (s : String) : (Token.sym s == Token.sym s) = true := by
  show (s == s) = true
  exact beq_self_eq_true s

theorem peekSym_run (s : String) : peekSym s env i = .ok (tokenAt env i == .sym s, i) := rfl

theorem consumeSym_of_ne {s : String} (h : (tokenAt env i == .sym s) = false) :
    consumeSym s env i = .ok (false, i) := by
  unfold consumeSym
  rw [run_bind_ok (peekSym_run s), h]
  rfl

theorem consumeSym_of_eq {s : String} (h : tokenAt env i = .sym s) :
    consumeSym s env i = .ok (true, i + 1) := by
  unfold consumeSym
  rw [run_bind_ok (peekSym_run s), h, beq_sym_self]
  rfl

theorem parseKeyword_of_ne {kw : String} (h : (tokenAt env i).isKeyword kw = false) :
    parseKeyword kw env i = .ok (false, i) := by
  unfold parseKeyword peekKeyword
  rw [run_bind_ok (run_bind_ok peekToken_run), h]
  rfl

theorem parseOneOfKeywords_none {kws : List String}
    (h : kws.find? (tokenAt env i).isKeyword = none) :
    parseOneOfKeywords kws env i = .ok (none, i) := by
  unfold parseOneOfKeywords
  rw [run_bind_ok peekToken_run, h]
  rfl

/-! ## Combinators -/

theorem nested_run {p : Parser α} (hb : env.budget ≠ 0) : nested p env i = p env.deeper i := by
  unfold nested
  rw [run_bind_ok read_run]
  simp only [hb, beq_iff_eq, if_false]
  rfl

theorem tryParse_ok {p : Parser α} {a : α} (h : p env i = .ok (a, j)) :
    tryParse p env i = .ok (.ok a, j) := by
  show Except.tryCatch (p env i >>= fun q => pure (Except.ok q.1, q.2)) _ = _
  rw [h]; rfl

theorem tryParse_error {p : Parser α} {e : ParseError} (h : p env i = .error e) :
    tryParse p env i = .ok (.error e, i) := by
  show Except.tryCatch (p env i >>= fun q => pure (Except.ok q.1, q.2)) _ = _
  rw [h]; rfl

theorem maybeParse_ok {p : Parser α} {a : α} (h : p env i = .ok (a, j)) :
    maybeParse p env i = .ok (some a, j) := by
  unfold maybeParse
  rw [run_bind_ok (tryParse_ok h)]
  rfl

theorem maybeParse_of_fails {p : Parser α} (h : ∃ m k, p env i = .error (.message m k)) :
    maybeParse p env i = .ok (none, i) := by
  obtain ⟨m, k, h⟩ := h
  unfold maybeParse
  rw [run_bind_ok (tryParse_error h)]
  rfl

theorem iterate_go_stop {step : σ → Parser (Option σ)} {s : σ} (n : Nat)
    (h : step s env i = .ok (none, j)) : iterate.go step (n + 1) s env i = .ok (s, j) := by
  rw [iterate.go.eq_def]
  simp only
  rw [run_bind_ok h]
  rfl

theorem iterate_go_more {step : σ → Parser (Option σ)} {s s' : σ} (n : Nat)
    (h : step s env i = .ok (some s', j)) :
    iterate.go step (n + 1) s env i = iterate.go step n s' env j := by
  rw [iterate.go.eq_def]
  simp only
  rw [run_bind_ok h]

theorem iterate_run (step : σ → Parser (Option σ)) (s : σ) :
    iterate step s env i = iterate.go step (env.tokens.size + 1) s env i := rfl

theorem iterate_stop {step : σ → Parser (Option σ)} {s : σ} (h : step s env i = .ok (none, j)) :
    iterate step s env i = .ok (s, j) :=
  iterate_go_stop _ h

/-- A loop that takes one round and stops, over tokens that are not all gone. -/
theorem iterate_once {step : σ → Parser (Option σ)} {s s' : σ} (hs : env.tokens.size ≠ 0)
    (h1 : step s env i = .ok (some s', j)) (h2 : step s' env j = .ok (none, k)) :
    iterate step s env i = .ok (s', k) := by
  obtain ⟨n, hn⟩ : ∃ n, env.tokens.size = n + 1 := ⟨_, (Nat.succ_pred_eq_of_ne_zero hs).symm⟩
  rw [iterate_run, hn, iterate_go_more _ h1, iterate_go_stop _ h2]

end Parser

end SqlScope.Sql
