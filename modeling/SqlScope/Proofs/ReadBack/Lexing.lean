import SqlScope.Sql.Lexer
import SqlScope.Sql.Printer

/-!
# Lexing printed text back

`tokenize` runs `lexOne` from the front of the text, one token at a time, with a
fuel of one more than the length of the text, and then folds spaces and comments
into the token after them. This module describes such a run without the fuel
and the positions: `Lexes d prev cs ts` says that the lexer, started after the
token `prev`, reads the characters `cs` as the tokens `ts`, spaces included, each
token taking at least one character. A run is built one token at a time, which
is how the printed text of a merged condition is taken apart: each piece of it
is followed by text that cannot extend it.

`tokenize_of_lexes` turns such a run into the result of `tokenize`, seen through
`Located.shape`: the token and whether spaces stand before it, which is all the
grammar reads of a token besides its position in error messages.
-/

namespace SqlScope.Sql

/-- The lexer, started after the token `prev`, reads `cs` as the tokens `ts`, spaces
and comments included. -/
inductive Lexes (d : Dialect) : Option Token → List Char → List Token → Prop
  | nil (prev : Option Token) : Lexes d prev [] []
  | cons {prev : Option Token} {cs : List Char} {tok : Token} {k : Nat} {ts : List Token} :
      cs ≠ [] → lexOne d prev cs = .ok (tok, k) → 0 < k → Lexes d (some tok) (cs.drop k) ts →
      Lexes d prev cs (tok :: ts)

namespace Lexes

variable {d : Dialect}

theorem length_le {prev : Option Token} {cs : List Char} {ts : List Token}
    (h : Lexes d prev cs ts) : ts.length ≤ cs.length := by
  induction h with
  | nil => exact Nat.le_refl 0
  | @cons prev cs tok k ts hne _ hk _ ih =>
    have : (cs.drop k).length < cs.length := by
      rw [List.length_drop]
      exact Nat.sub_lt (List.length_pos_iff.mpr hne) hk
    simp only [List.length_cons]
    omega

/-- A token read from its whole text `a`, and then the rest. -/
theorem text {prev : Option Token} {a r : List Char} {tok : Token} {ts : List Token}
    (ha : a ≠ []) (h : lexOne d prev (a ++ r) = .ok (tok, a.length))
    (hr : Lexes d (some tok) r ts) : Lexes d prev (a ++ r) (tok :: ts) :=
  .cons (by simp [ha]) h (List.length_pos_iff.mpr ha) (by rwa [List.drop_left])

end Lexes

/-! ## Spaces folded into the tokens after them -/

/-- What the grammar reads of a token: the token, and whether spaces or a comment
stand before it. -/
def Located.shape (t : Located) : Token × Bool := (t.token, t.gap.isSome)

theorem toNat_of_isDigit {c : Char} (h : c.isDigit = true) : 48 ≤ c.toNat ∧ c.toNat ≤ 57 := by
  simp only [Char.isDigit, Bool.and_eq_true, decide_eq_true_eq] at h
  exact h

theorem beq_false_of_toNat_ne {c x : Char} (h : c.toNat ≠ x.toNat) : (c == x) = false :=
  beq_eq_false_iff_ne.mpr fun he => h (he ▸ rfl)

/-- `Char.isAlpha` spelled out, so that proofs need not unfold it. -/
theorem isAlpha_eq (c : Char) : c.isAlpha = (decide (c.val ≥ 'A'.val ∧ c.val ≤ 'Z'.val) ||
    (decide (c.val ≥ 'a'.val) && decide (c.val ≤ 'z'.val))) := rfl

theorem isAlpha_of_isDigit {c : Char} (h : c.isDigit = true) : c.isAlpha = false := by
  obtain ⟨h1, h2⟩ := toNat_of_isDigit h
  have hv : c.val.toNat = c.toNat := rfl
  have hA : 'A'.val.toNat = 65 := rfl
  have hZ : 'Z'.val.toNat = 90 := rfl
  have ha : 'a'.val.toNat = 97 := rfl
  have hz : 'z'.val.toNat = 122 := rfl
  simp only [isAlpha_eq, Bool.or_eq_false_iff, Bool.and_eq_false_iff,
    decide_eq_false_iff_not, ge_iff_le, UInt32.le_iff_toNat_le, hv, hA, hZ, ha, hz]
  omega

/-- No digit starts a word. -/
theorem isIdentStart_of_isDigit (d : Dialect) {c : Char} (h : c.isDigit = true) :
    d.isIdentStart c = false := by
  obtain ⟨h1, h2⟩ := toNat_of_isDigit h
  have halpha : Text.isAlphabetic c = false := by
    simp only [Text.isAlphabetic, show c.toNat < 0x80 by omega, ↓reduceIte, isAlpha_of_isDigit h]
  have hu : (c == '_') = false := beq_false_of_toNat_ne (by rw [show '_'.toNat = 95 from rfl]; omega)
  have hh : (c == '#') = false := beq_false_of_toNat_ne (by rw [show '#'.toNat = 35 from rfl]; omega)
  have ha : (c == '@') = false := beq_false_of_toNat_ne (by rw [show '@'.toNat = 64 from rfl]; omega)
  have hd : (c == '$') = false := beq_false_of_toNat_ne (by rw [show '$'.toNat = 36 from rfl]; omega)
  have hhigh : ¬ 0x80 ≤ c.toNat := by omega
  have hhigh' : ¬ 0x7F ≤ c.toNat := by omega
  cases d <;> simp [Dialect.isIdentStart, halpha, hu, hh, ha, hd, hhigh, hhigh', isAlpha_of_isDigit h]

theorem not_mem_of_isDigit {c : Char} {L : List Char} (h : c.isDigit = true)
    (hL : L.all (fun x => x.toNat < 48 || 57 < x.toNat) = true) : c ∉ L := by
  intro hc
  have := toNat_of_isDigit h
  have := List.all_eq_true.mp hL c hc
  simp only [Bool.or_eq_true, decide_eq_true_eq] at this
  omega

/-- The text with each quote `q` written twice. -/
def doubleQuotes (q : Char) (cs : List Char) : List Char :=
  cs.flatMap fun c => if c = q then [q, q] else [c]

@[simp] theorem doubleQuotes_nil (q : Char) : doubleQuotes q [] = [] := rfl

/-- No quote `q` of the text stands right after another quote or after a backslash;
`prev` is the character before the text. -/
def QuotesAlone (q : Char) : Char → List Char → Prop
  | _, [] => True
  | prev, c :: cs => (c = q → prev ≠ q ∧ prev ≠ '\\') ∧ QuotesAlone q c cs

/-- What may follow an operand in the printed text: nothing, or a closing parenthesis. -/
def EndsOperand (r : List Char) : Prop := r.head? = none ∨ r.head? = some ')'

theorem EndsOperand.cases {r : List Char} (h : EndsOperand r) : r = [] ∨ ∃ r', r = ')' :: r' := by
  rcases h with h | h
  · exact Or.inl (List.head?_eq_none_iff.mp h)
  · cases r with
    | nil => cases h
    | cons x r' =>
      simp only [List.head?_cons, Option.some.injEq] at h
      exact Or.inr ⟨r', by rw [h]⟩

/-- The names the lexer reads back as written: an unquoted name of identifier
characters that does not start with `#` or `@`; a name in brackets with no closing
bracket inside; or a name in double quotes or backquotes, in which no quote follows a
quote or a backslash. The quote must open a quoted name in the dialect. -/
def LexesAsName (d : Dialect) (x : Ident) : Prop :=
  match x.quote with
  | none => ∃ c cs, x.value.toList = c :: cs ∧ d.isIdentStart c = true ∧ c ≠ '#' ∧ c ≠ '@' ∧
      ∀ y ∈ cs, d.isIdentPart y = true
  | some q => d.isDelimitedStart q = true ∧
      if q = '[' then ']' ∉ x.value.toList
      else (q = '"' ∨ q = '`') ∧ QuotesAlone q (Char.ofNat 0) x.value.toList

end SqlScope.Sql
