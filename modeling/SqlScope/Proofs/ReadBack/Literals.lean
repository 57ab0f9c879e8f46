import SqlScope.Proofs.ReadBack.Operators
import SqlScope.Proofs.ReadBack.Lexing
import SqlScope.Scope.Literal

/-!
# Literals read back

A literal is printed as a number, a quoted text, `NULL`, `true` or `false`. Read
back, each of them is one operand, though not always the value it was built from:
a negative number is read as a minus sign applied to its magnitude, and in a
dialect without boolean literals `true` and `false` are names. `Literal.reading`
is that operand; it prints as the literal did (`render_reading`).

Numbers are written positionally, with no exponent (`IsNumberText`), so the lexer
reads the digits up to the end of the literal as one number. A text reads back as
itself when the printer doubled each of its quotes: no quote may follow a quote or
a backslash in it, and no backslash may stand in it where backslashes escape
(`SafeText`). Dates and times are written with digits and signs only.
-/

namespace SqlScope.Scope

open SqlScope.Sql SqlScope.Sql.Parser SqlScope.Number

/-! ## Number texts -/

/-- A text that the printer writes between single quotes so that the dialect reads
it back: no quote follows a quote or a backslash, and where backslashes escape, it
has none. -/
def SafeText (d : Dialect) (s : String) : Prop :=
  QuotesAlone '\'' (Char.ofNat 0) s.toList ∧ (d.backslashEscapes = true → '\\' ∉ s.toList)

/-- The characters of a date or a time: digits, signs and separators. -/
def IsCalendarChar (x : Char) : Prop := x.isDigit = true ∨ x ∈ ['-', '+', ':', ' ']

theorem IsCalendarChar.plain {x : Char} (h : IsCalendarChar x) : x ≠ '\'' ∧ x ≠ '\\' := by
  rcases h with h | h
  · exact ⟨fun he => not_mem_of_isDigit (L := ['\'']) h (by decide) (by simp [he]),
      fun he => not_mem_of_isDigit (L := ['\\']) h (by decide) (by simp [he])⟩
  · simp only [List.mem_cons, List.not_mem_nil, or_false] at h
    rcases h with rfl | rfl | rfl | rfl <;> decide

/-- The tokens of a number text: a minus sign and the magnitude, or the number. -/
def numberTokens (t : String) : List Token :=
  match t.toList with
  | '-' :: u => [.sym "-", .number (String.ofList u) false]
  | _ => [.number t false]

/-- The operand a number text reads as: a negative number is the minus sign applied
to its magnitude. -/
def numberReading (t : String) : Expr :=
  match t.toList with
  | '-' :: u => .unary .minus (.value (.number (String.ofList u)))
  | _ => .value (.number t)

namespace Literal

/-- The tokens the printed literal is read as. -/
def tokens (l : Literal) : List Token :=
  match l.toValue with
  | .number t => numberTokens t
  | .singleQuoted s => [.singleQuoted s]
  | .boolean b => [.word (if b then "true" else "false") none]
  | .null => [.word "NULL" none]
  -- no literal is written as any other value
  | _ => []

/-- The operand the printed literal is read back as. -/
def reading (d : Dialect) (l : Literal) : Expr :=
  match l.toValue with
  | .number t => numberReading t
  | .boolean b =>
    if d.hasBooleanLiterals then .value (.boolean b) else .ident ⟨if b then "true" else "false", none⟩
  | v => .value v

/-- The printed literal reads back in the dialect: a text must be safe in it. -/
def ReadsBack (d : Dialect) : Literal → Prop
  | .text s => SafeText d s
  | _ => True

/-- The reading prints as the literal did. -/
theorem render_reading (d : Dialect) (l : Literal) : (l.reading d).render = l.toValue.render := by
  unfold reading
  split
  · rename_i t ht
    rw [ht]
    unfold numberReading
    split
    · rename_i u hu
      apply String.toList_injective
      simp [Expr.render, UnaryOp.symbol, Value.render, String.toList_append, hu]
    · simp only [Expr.render]
  · rename_i b hb
    rw [hb]
    split <;> cases b <;> simp [Expr.render, Ident.render, Value.render]
  · simp only [Expr.render]

end Literal

/-! ## Lexing a printed literal -/

section Lexing

variable {d : Dialect} {r : List Char} {R : List Token}

end Lexing

/-! ## Parsing a printed literal -/

section Parsing

variable {env : ParseEnv} {i : Nat}

theorem numberText_of_minus {t : String} {u : List Char} (hu : t.toList = '-' :: u) :
    numberTokens t = [.sym "-", .number (String.ofList u) false] ∧
      numberReading t = .unary .minus (.value (.number (String.ofList u))) := by
  simp [numberTokens, numberReading, hu]

theorem numberText_of_not_minus {t : String} (h : ∀ u, t.toList ≠ '-' :: u) :
    numberTokens t = [.number t false] ∧ numberReading t = .value (.number t) := by
  constructor
  all_goals
    first
    | unfold numberTokens
    | unfold numberReading
    split
    · exact absurd ‹_› (h _)
    · rfl

/-- The tokens of a number text, before the end of an expression, read as the
number or as its negation. -/
theorem parseSubexpr_numberText (n minPrec : Nat) {t : String} (hb : 2 ≤ env.budget)
    (ht : TokensAt env i (numberTokens t))
    (he : EndsExpr (tokenAt env (i + (numberTokens t).length))) :
    parseSubexpr (n + 6) minPrec env i = .ok (numberReading t, i + (numberTokens t).length) := by
  by_cases hm : ∃ u, t.toList = '-' :: u
  · obtain ⟨u, hu⟩ := hm
    obtain ⟨htoks, hread⟩ := numberText_of_minus hu
    rw [htoks] at ht he ⊢
    rw [hread]
    simp only [tokensAt_cons, tokensAt_nil, and_true] at ht
    exact parseSubexpr_negative n minPrec hb ht.1 ht.2 he
  · obtain ⟨htoks, hread⟩ := numberText_of_not_minus fun u hu => hm ⟨u, hu⟩
    rw [htoks] at ht he ⊢
    rw [hread]
    simp only [tokensAt_cons, tokensAt_nil, and_true] at ht
    exact parseSubexpr_number (n + 3) minPrec (by omega) ht he

/-- The tokens of a printed literal, before the end of an expression, read as the
literal's reading. -/
theorem parseSubexpr_literal (n minPrec : Nat) (l : Literal) (hb : 2 ≤ env.budget)
    (ht : TokensAt env i l.tokens) (he : EndsExpr (tokenAt env (i + l.tokens.length))) :
    parseSubexpr (n + 6) minPrec env i = .ok (l.reading env.dialect, i + l.tokens.length) := by
  have hb' : env.budget ≠ 0 := by omega
  have hstring : ∀ s : String, l.toValue = .singleQuoted s →
      parseSubexpr (n + 6) minPrec env i = .ok (l.reading env.dialect, i + l.tokens.length) := by
    intro s hs
    simp only [Literal.tokens, Literal.reading, hs, List.length_singleton, tokensAt_cons,
      tokensAt_nil, and_true] at ht he ⊢
    exact parseSubexpr_string (n + 3) minPrec hb' ht he
  have hnull : l.toValue = .null →
      parseSubexpr (n + 6) minPrec env i = .ok (l.reading env.dialect, i + l.tokens.length) := by
    intro hs
    simp only [Literal.tokens, Literal.reading, hs, List.length_singleton, tokensAt_cons,
      tokensAt_nil, and_true] at ht he ⊢
    exact parseSubexpr_null (n + 2) minPrec hb' ht he
  have hnumber : ∀ t : String, l.toValue = .number t →
      parseSubexpr (n + 6) minPrec env i = .ok (l.reading env.dialect, i + l.tokens.length) := by
    intro t hs
    simp only [Literal.tokens, Literal.reading, hs] at ht he ⊢
    exact parseSubexpr_numberText n minPrec hb ht he
  cases l with
  | null => exact hnull rfl
  | integer k => exact hnumber _ rfl
  | float x =>
    by_cases hx : x.isFinite = true
    · exact hnumber x.positional (by simp [Literal.toValue, hx])
    · exact hnull (by simp [Literal.toValue, hx])
  | text s => exact hstring s rfl
  | boolean b =>
    simp only [Literal.tokens, Literal.reading, Literal.toValue, List.length_singleton,
      tokensAt_cons, tokensAt_nil, and_true] at ht he ⊢
    exact parseSubexpr_boolean (n + 2) minPrec hb' ht he
  | date dt => exact hstring _ rfl
  | time t => exact hstring _ rfl
  | timestamp dt t => exact hstring _ rfl

end Parsing

end SqlScope.Scope
