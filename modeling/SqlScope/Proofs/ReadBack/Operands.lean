import SqlScope.Proofs.ReadBack.Steps

/-!
# Reading a name as an operand

Before it reads an operand, `parsePrefix` tries to read a typed string such as
`DATE '2024-01-01'`: a type name followed by a value. At a word this attempt runs
the whole type grammar, which knows dozens of type keywords with their optional
arguments. The attempt must fail for the words of a merged condition (a column
may well be called `date` or `text`), and fail with a syntax error, which
`maybeParse` swallows, rather than by running out of recursion budget.

It does, because of what follows such a word: a period, `=`, `)` or the end of
input, none of which starts a type argument (`knownType_after`), none of which is
a value, and none of which continues a name beyond `q.c`.
-/

namespace SqlScope.Sql.Parser

variable {α β : Type} {env : ParseEnv} {i j k : Nat}

theorem lt_size_of_ne_eof (h : tokenAt env k ≠ .eof) : k < env.tokens.size := by
  refine Decidable.byContradiction fun hk => h ?_
  simp only [tokenAt, Array.getD, dif_neg hk]
  rfl

/-! ## After a word -/

/-- The tokens that stand after a name or a keyword literal in a merged condition: the
period after a qualifier, the `=` after a column, and the `)` or the end of input after
a literal. -/
def AfterWord (t : Token) : Prop := t = .sym "." ∨ t = .sym "=" ∨ t = .sym ")" ∨ t = .eof

section AfterWord

variable (h : AfterWord (tokenAt env i))
include h

theorem AfterWord.keyword_none : (tokenAt env i).keyword = none := by
  rcases h with h | h | h | h <;> rw [h] <;> rfl

theorem AfterWord.isKeyword {kw : String} : (tokenAt env i).isKeyword kw = false := by
  unfold Token.isKeyword
  rw [h.keyword_none]
  rfl

theorem AfterWord.ne_open : (tokenAt env i == .sym "(") = false := by
  rcases h with h | h | h | h <;> rw [h] <;> rfl

theorem AfterWord.ne_angle : (tokenAt env i == .sym "<") = false := by
  rcases h with h | h | h | h <;> rw [h] <;> rfl

theorem AfterWord.ne_bracket : (tokenAt env i == .sym "[") = false := by
  rcases h with h | h | h | h <;> rw [h] <;> rfl

theorem optionalPrecision_after : optionalPrecision env i = .ok ("", i) := by
  unfold optionalPrecision
  rw [run_bind_ok (consumeSym_of_ne h.ne_open)]
  rfl


theorem optionalPrecisionScale_after : optionalPrecisionScale env i = .ok ("", i) := by
  unfold optionalPrecisionScale
  rw [run_bind_ok (consumeSym_of_ne h.ne_open)]
  rfl

theorem optionalCharLength_after : optionalCharLength env i = .ok ("", i) := by
  unfold optionalCharLength
  rw [run_bind_ok (consumeSym_of_ne h.ne_open)]
  rfl

theorem optionalUnsigned_after : optionalUnsigned env i = .ok ("", i) := by
  unfold optionalUnsigned
  rw [run_bind_ok (parseKeyword_of_ne h.isKeyword)]
  rfl

theorem timeZoneSuffix_after (p : String) : timeZoneSuffix p env i = .ok (p, i) := by
  unfold timeZoneSuffix
  simp only [run_bind_ok (parseKeyword_of_ne h.isKeyword), Bool.false_eq_true, ↓reduceIte]
  rfl

theorem parseKeywords_after (kw : String) (kws : List String) :
    parseKeywords (kw :: kws) env i = .ok (false, i) := by
  unfold parseKeywords
  simp only [List.forIn_cons, bind_assoc]
  rw [run_bind_ok get_run, run_bind_ok (parseKeyword_of_ne h.isKeyword)]
  rfl

theorem parseIntervalFields_after : parseIntervalFields env i = .ok ("", i) := by
  unfold parseIntervalFields
  rw [run_bind_ok (parseOneOfKeywords_none (by rw [List.find?_eq_none]; simp [h.isKeyword]))]
  rfl

omit h in
theorem expectSym_after {s : String} (hs : (tokenAt env i == .sym s) = false) :
    ∃ m, expectSym s env i = .error (.message m i) := by
  unfold expectSym
  rw [run_bind_ok (consumeSym_of_ne hs)]
  exact ⟨_, rfl⟩


theorem parseEnumMembers_after : ∃ m, parseEnumMembers env i = .error (.message m i) := by
  obtain ⟨m, hm⟩ := expectSym_after h.ne_open
  unfold parseEnumMembers
  exact ⟨m, run_bind_error hm⟩

theorem parseSetMembers_after : ∃ m, parseSetMembers env i = .error (.message m i) := by
  obtain ⟨m, hm⟩ := expectSym_after h.ne_open
  unfold parseSetMembers
  exact ⟨m, run_bind_error hm⟩

/-- A known type name followed by a token that starts no type argument reads nothing
more: it answers without moving, or fails with a syntax error. -/
theorem knownType_after (kw : String) (inner : Parser (ParsedType × Bool)) :
    (∃ r, knownType kw inner env i = .ok (r, i)) ∨
      ∃ m k, knownType kw inner env i = .error (.message m k) := by
  obtain ⟨m1, hm1⟩ := parseEnumMembers_after h
  obtain ⟨m2, hm2⟩ := parseSetMembers_after h
  obtain ⟨m3, hm3⟩ := expectSym_after h.ne_open
  obtain ⟨m4, hm4⟩ := expectSym_after h.ne_angle
  unfold knownType
  rw [run_bind_ok dialect_run]
  repeat' split
  all_goals
    try simp only [run_bind_ok (optionalPrecision_after h),
      run_bind_ok (optionalPrecisionScale_after h), run_bind_ok (optionalCharLength_after h),
      run_bind_ok (optionalUnsigned_after h), run_bind_ok (parseKeyword_of_ne h.isKeyword),
      run_bind_ok (parseKeywords_after h _ _), run_bind_ok (parseIntervalFields_after h),
      run_bind_ok (timeZoneSuffix_after h _), run_bind_error hm1, run_bind_error hm2,
      run_bind_error hm3, run_bind_error hm4, Bool.false_eq_true, ↓reduceIte]
  all_goals first | exact Or.inl ⟨_, rfl⟩ | exact Or.inr ⟨_, _, rfl⟩



theorem parseValue_after : ∃ m k, parseValue env i = .error (.message m k) := by
  unfold parseValue
  rw [run_bind_ok next_run]
  simp only [AfterWord, tokenAt] at h
  rcases h with h | h | h | h <;> rw [h] <;> exact ⟨_, _, rfl⟩

theorem arraySuffixes_after (s : String) : arraySuffixes s env i = .ok (s, i) := by
  unfold arraySuffixes
  rw [run_bind_ok dialect_run]
  split
  · rfl
  · rw [run_bind_ok read_run, arraySuffixes.brackets.eq_def]
    simp only
    rw [run_bind_ok (consumeSym_of_ne h.ne_bracket)]
    rfl

theorem parseStructFields_after (n : Nat) :
    parseStructFields (n + 1) env i = .ok (("STRUCT", false), i) := by
  rw [parseStructFields.eq_def]
  simp only
  rw [run_bind_ok (peekSym_run "<"), h.ne_angle]
  rfl

theorem customModifiers_after : customModifiers env i = .ok ([], i) := by
  unfold customModifiers
  rw [run_bind_ok (consumeSym_of_ne h.ne_open)]
  rfl

end AfterWord

/-! ## Names -/

section Word

variable {v : String} {q : Option Char} (hw : tokenAt env i = .word v q)
include hw

theorem word_ne_eof : tokenAt env i ≠ .eof := by
  rw [hw]
  exact Token.noConfusion

theorem parseIdentifier_word : parseIdentifier env i = .ok (⟨v, q⟩, i + 1) := by
  unfold parseIdentifier
  rw [run_bind_ok next_run]
  simp only [tokenAt] at hw
  rw [hw]
  rfl

theorem objectNameGo_last (hd : (tokenAt env (i + 1) == .sym ".") = false) (n : Nat)
    (acc : List Ident) :
    parseObjectName.go (n + 1) acc env i = .ok ((⟨v, q⟩ :: acc).reverse, i + 1) := by
  rw [parseObjectName.go.eq_def]
  simp only
  rw [run_bind_ok (parseIdentifier_word hw), run_bind_ok (consumeSym_of_ne hd)]
  rfl

theorem objectNameGo_dot (hd : tokenAt env (i + 1) = .sym ".") (n : Nat) (acc : List Ident) :
    parseObjectName.go (n + 1) acc env i = parseObjectName.go n (⟨v, q⟩ :: acc) env (i + 2) := by
  rw [parseObjectName.go.eq_def]
  simp only
  rw [run_bind_ok (parseIdentifier_word hw), run_bind_ok (consumeSym_of_eq hd)]
  rfl

end Word

/-- What follows a word that the typed-string attempt may take for a type name: a
token that continues no type, or a period, a second word and `=`, as in `q.c =`. -/
def EndsTypeName (env : ParseEnv) (k : Nat) : Prop :=
  tokenAt env k = .sym "=" ∨ tokenAt env k = .sym ")" ∨ tokenAt env k = .eof ∨
    tokenAt env k = .sym "." ∧ (∃ v q, tokenAt env (k + 1) = .word v q) ∧
      tokenAt env (k + 2) = .sym "="

theorem EndsTypeName.afterWord (h : EndsTypeName env k) : AfterWord (tokenAt env k) := by
  rcases h with h | h | h | ⟨h, -⟩
  · exact Or.inr (Or.inl h)
  · exact Or.inr (Or.inr (Or.inl h))
  · exact Or.inr (Or.inr (Or.inr h))
  · exact Or.inl h

theorem parseObjectName_one {v : String} {q : Option Char} (hw : tokenAt env i = .word v q)
    (hd : (tokenAt env (i + 1) == .sym ".") = false) :
    parseObjectName env i = .ok (⟨[⟨v, q⟩]⟩, i + 1) := by
  unfold parseObjectName
  rw [run_bind_ok read_run, run_bind_ok (objectNameGo_last hw hd _ _)]
  rfl

theorem parseObjectName_two {v v' : String} {q q' : Option Char} (hw : tokenAt env i = .word v q)
    (hd : tokenAt env (i + 1) = .sym ".") (hw' : tokenAt env (i + 2) = .word v' q')
    (hd' : (tokenAt env (i + 2 + 1) == .sym ".") = false) :
    parseObjectName env i = .ok (⟨[⟨v, q⟩, ⟨v', q'⟩]⟩, i + 2 + 1) := by
  obtain ⟨n, hn⟩ : ∃ n, env.tokens.size = n + 1 + 1 :=
    ⟨env.tokens.size - 2, by have := lt_size_of_ne_eof (word_ne_eof hw'); omega⟩
  have hgo : parseObjectName.go (n + 1 + 1 + 1) [] env i = .ok ([⟨v, q⟩, ⟨v', q'⟩], i + 2 + 1) := by
    rw [objectNameGo_dot hw hd, objectNameGo_last hw' hd']
    rfl
  unfold parseObjectName
  rw [run_bind_ok read_run, hn, run_bind_ok hgo]
  rfl

/-- At a word followed by what ends a type name, the custom-type reader reads the
word, or the qualified name, and stops before anything that would extend the type. -/
theorem customType_word {v : String} {q : Option Char} (hw : tokenAt env i = .word v q)
    (he : EndsTypeName env (i + 1)) :
    ∃ ty j, ty.custom = true ∧ customType env i = .ok (ty, j) ∧ AfterWord (tokenAt env j) := by
  have hafter := he.afterWord
  unfold customType
  rcases he with h | h | h | ⟨hd, ⟨v', q', hw'⟩, he'⟩
  case inr.inr.inr =>
    have hend : AfterWord (tokenAt env (i + 2 + 1)) := Or.inr (Or.inl he')
    rw [run_bind_ok (parseObjectName_two hw hd hw' (by rw [he']; rfl)),
      run_bind_ok (customModifiers_after hend)]
    exact ⟨_, _, rfl, rfl, hend⟩
  all_goals
    rw [run_bind_ok (parseObjectName_one hw (by rw [h]; rfl)),
      run_bind_ok (customModifiers_after hafter)]
    exact ⟨_, _, rfl, rfl, hafter⟩

/-- The type grammar at a word followed by what ends a type name: a syntax error, a
known type that stops right after the word, or a custom type. -/
theorem parseDataTypeWith_word (n : Nat) {v : String} {q : Option Char}
    (hw : tokenAt env i = .word v q) (he : EndsTypeName env (i + 1)) :
    (∃ m k, parseDataTypeWith (n + 1 + 1) env i = .error (.message m k)) ∨
    (∃ r, r.1.custom = false ∧ parseDataTypeWith (n + 1 + 1) env i = .ok (r, i + 1)) ∨
    ∃ r j, r.1.custom = true ∧ parseDataTypeWith (n + 1 + 1) env i = .ok (r, j) := by
  obtain ⟨ty, j, hcustom, hty, hj⟩ := customType_word hw he
  have ha := he.afterWord
  -- what the reader does once it has the type's text at `k`: nothing, as no `[` follows
  have hsuffix {k : Nat} (hk : AfterWord (tokenAt env k)) (r : ParsedType × Bool) :
      (arraySuffixes r.1.type.text >>= fun s =>
        (pure ({ type := ⟨s⟩, custom := r.1.custom, interval := r.1.interval }, r.2) :
          Parser (ParsedType × Bool))) env k =
        .ok (({ type := r.1.type, custom := r.1.custom, interval := r.1.interval }, r.2), k) := by
    rw [run_bind_ok (arraySuffixes_after hk _)]
    rfl
  have hcustomType : (back >>= fun _ => customType >>= fun t =>
      (pure (t, false) : Parser (ParsedType × Bool)) >>= fun r =>
        arraySuffixes r.1.type.text >>= fun s =>
          (pure ({ type := ⟨s⟩, custom := r.1.custom, interval := r.1.interval }, r.2) :
            Parser (ParsedType × Bool))) env (i + 1) =
      .ok (({ type := ty.type, custom := ty.custom, interval := ty.interval }, false), j) := by
    rw [run_bind_ok back_run, Nat.add_sub_cancel, run_bind_ok hty, run_bind_ok (run_pure _),
      hsuffix hj]
  rw [parseDataTypeWith.eq_def]
  simp only
  rw [run_bind_ok next_run]
  simp only [tokenAt] at hw
  rw [hw]
  cases q with
  | some c => exact Or.inr (Or.inr ⟨_, _, hcustom, hcustomType⟩)
  | none =>
    simp only
    rw [run_bind_ok dialect_run]
    split
    · rw [run_bind_ok (parseStructFields_after ha _), run_bind_ok (run_pure _), hsuffix ha]
      exact Or.inr (Or.inl ⟨_, rfl, rfl⟩)
    · rcases knownType_after ha (keywordText v) (parseDataTypeWith (n + 1)) with
        ⟨r, hr⟩ | ⟨m, k, hr⟩
      · rw [run_bind_ok hr]
        rcases r with _ | ⟨text, m⟩
        · exact Or.inr (Or.inr ⟨_, _, hcustom, hcustomType⟩)
        · simp only
          rw [run_bind_ok (run_pure _), hsuffix ha]
          exact Or.inr (Or.inl ⟨_, rfl, rfl⟩)
      · exact Or.inl ⟨m, k, run_bind_error hr⟩

theorem parseDataType_word {v : String} {q : Option Char} (hw : tokenAt env i = .word v q)
    (he : EndsTypeName env (i + 1)) :
    (∃ m k, parseDataType env i = .error (.message m k)) ∨
    (∃ ty, ty.custom = false ∧ parseDataType env i = .ok (ty, i + 1)) ∨
    ∃ ty j, ty.custom = true ∧ parseDataType env i = .ok (ty, j) := by
  obtain ⟨n, hn⟩ : ∃ n, env.tokens.size = n + 1 :=
    ⟨env.tokens.size - 1, by have := lt_size_of_ne_eof (word_ne_eof hw); omega⟩
  unfold parseDataType
  rw [run_bind_ok read_run, hn]
  rcases parseDataTypeWith_word n hw he with ⟨m, k, h⟩ | ⟨r, hr, h⟩ | ⟨r, j, hr, h⟩
  · exact Or.inl ⟨m, k, run_bind_error h⟩
  · exact Or.inr (Or.inl ⟨r.1, hr, run_bind_ok h⟩)
  · exact Or.inr (Or.inr ⟨r.1, j, hr, run_bind_ok h⟩)

/-- The typed-string attempt at a word followed by what ends a type name fails with a
syntax error, given that its continuation fails after a custom type, wherever that
stops, and after a known type, which stops right after the word. -/
theorem parseDataType_bind_fails {v : String} {q : Option Char} (hw : tokenAt env i = .word v q)
    (he : EndsTypeName env (i + 1)) {g : ParsedType → Parser β}
    (hcustom : ∀ ty k, ty.custom = true → ∃ m k', g ty env k = .error (.message m k'))
    (hknown : ∀ ty, ∃ m k', g ty env (i + 1) = .error (.message m k')) :
    ∃ m k, (parseDataType >>= g) env i = .error (.message m k) := by
  rcases parseDataType_word hw he with ⟨m, k, h⟩ | ⟨ty, -, h⟩ | ⟨ty, j, hty, h⟩
  · exact ⟨m, k, run_bind_error h⟩
  · rw [run_bind_ok h]
    exact hknown ty
  · rw [run_bind_ok h]
    exact hcustom ty j hty

/-! ## Plain names -/

/-- The keywords that begin an expression form of their own, such as `CASE`, `CAST`,
`NOT`, `TRUE` or `NULL`, and the quantifiers `ANY`, `ALL` and `SOME`: an unquoted word
that spells one of them is not read as a name everywhere. -/
def operandKeywords : List String :=
  ["TRUE", "FALSE", "NULL", "CURRENT_CATALOG", "CURRENT_USER", "SESSION_USER", "USER",
   "CURRENT_TIMESTAMP", "CURRENT_TIME", "CURRENT_DATE", "LOCALTIME", "LOCALTIMESTAMP", "CASE",
   "CAST", "TRY_CAST", "CONVERT", "TRY_CONVERT", "OVERLAY", "MATCH", "SAFE_CAST", "EXISTS",
   "EXTRACT", "CEIL", "FLOOR", "POSITION", "SUBSTR", "SUBSTRING", "TRIM", "INTERVAL", "ARRAY",
   "NOT", "ANY", "ALL", "SOME", "SELECT", "WITH"]

/-- A word read as a plain name: quoted, or spelling none of `operandKeywords`. -/
def PlainWord (v : String) (q : Option Char) : Prop :=
  q = none → keywordText v ∉ operandKeywords

theorem PlainWord.isKeyword {v : String} {q : Option Char} (h : PlainWord v q) {kw : String}
    (hkw : kw ∈ operandKeywords) : (Token.word v q).isKeyword kw = false := by
  cases q with
  | some c => rfl
  | none =>
    have hne : keywordText v ≠ kw := fun he => h rfl (he ▸ hkw)
    simp only [Token.isKeyword, Token.keyword, Option.some_beq_some, beq_eq_false_iff_ne]
    exact hne

theorem prefixByReservedWord_plain (n : Nat) {t : Located} {v : String} {q : Option Char}
    (ht : t.token = .word v q) (hv : PlainWord v q) :
    prefixByReservedWord (n + 1) t env i = .ok (none, i) := by
  rw [prefixByReservedWord.eq_def]
  simp only
  rw [run_bind_ok dialect_run]
  cases q with
  | some c =>
    simp only [ht, Token.keyword]
    rfl
  | none =>
    have hv := hv rfl
    simp only [ht, Token.keyword]
    simp only [operandKeywords, List.mem_cons, List.not_mem_nil, not_or] at hv
    split <;> simp_all <;> rfl

theorem prefixByUnreservedWord_after (n : Nat) (ident : Ident) (h : AfterWord (tokenAt env i)) :
    prefixByUnreservedWord (n + 1) ident env i = .ok (.ident ident, i) := by
  rw [prefixByUnreservedWord.eq_def]
  simp only
  rw [run_bind_ok (peekSym_run "("), h.ne_open]
  simp only [Bool.false_eq_true, ↓reduceIte]
  split
  · rw [run_bind_ok peekToken_run]
    rcases h with h | h | h | h <;> rw [h] <;> rfl
  · rfl

/-- A word that has no meaning of its own here reads as a name when what follows does
not continue it. -/
theorem parseOperand_unreserved (n : Nat) {v : String} {q : Option Char}
    (hw : tokenAt env i = .word v q)
    (hres : ∀ t : Located, t.token = .word v q →
      prefixByReservedWord (n + 1) t env (i + 1) = .ok (none, i + 1))
    (h : AfterWord (tokenAt env (i + 1))) :
    parseOperand (n + 1 + 1) env i = .ok (.ident ⟨v, q⟩, i + 1) := by
  have hw' : (env.tokens.getD i eofToken).token = .word v q := hw
  rw [parseOperand.eq_def]
  simp only
  rw [run_bind_ok dialect_run, run_bind_ok next_run, hw']
  simp only
  rw [run_bind_ok (tryParse_ok (hres _ hw'))]
  exact prefixByUnreservedWord_after n _ h

/-- A keyword that starts an expression form reads as that form. -/
theorem parseOperand_reserved (n : Nat) {v : String} {q : Option Char} {e : Expr}
    (hw : tokenAt env i = .word v q)
    (hres : ∀ t : Located, t.token = .word v q →
      prefixByReservedWord (n + 1) t env (i + 1) = .ok (some e, j)) :
    parseOperand (n + 1 + 1) env i = .ok (e, j) := by
  have hw' : (env.tokens.getD i eofToken).token = .word v q := hw
  rw [parseOperand.eq_def]
  simp only
  rw [run_bind_ok dialect_run, run_bind_ok next_run, hw']
  simp only
  rw [run_bind_ok (tryParse_ok (hres _ hw'))]
  rfl

/-- At a word followed by what ends a type name, the typed-string attempt fails, and
the prefix is the operand that the word starts when no `COLLATE` follows it. -/
theorem parsePrefix_word (n : Nat) {v : String} {q : Option Char} {e : Expr}
    (hw : tokenAt env i = .word v q) (he : EndsTypeName env (i + 1))
    (hop : parseOperand n env i = .ok (e, j)) (hc : (tokenAt env j).isKeyword "COLLATE" = false) :
    parsePrefix (n + 1) env i = .ok (e, j) := by
  have ha := he.afterWord
  rw [parsePrefix.eq_def]
  simp only
  rw [run_bind_ok (maybeParse_of_fails (parseDataType_bind_fails hw he ?custom ?known))]
  case custom =>
    intro ty k hty
    simp only [hty, Bool.true_or, ↓reduceIte]
    exact ⟨_, _, run_bind_error (failWith_run _)⟩
  case known =>
    intro ty
    obtain ⟨m, k, hm⟩ := parseValue_after ha
    split
    · exact ⟨_, _, run_bind_error (failWith_run _)⟩
    · exact ⟨m, k, run_bind_error hm⟩
  simp only
  rw [run_bind_ok hop, run_bind_ok (parseKeyword_of_ne hc)]
  rfl

/-- A plain name followed by what ends a type name reads as that name. -/
theorem parsePrefix_name (n : Nat) {v : String} {q : Option Char}
    (hw : tokenAt env i = .word v q) (hv : PlainWord v q) (he : EndsTypeName env (i + 1)) :
    parsePrefix (n + 1 + 1 + 1) env i = .ok (.ident ⟨v, q⟩, i + 1) :=
  parsePrefix_word _ hw he
    (parseOperand_unreserved n hw (fun _ ht => prefixByReservedWord_plain n ht hv) he.afterWord)
    he.afterWord.isKeyword

theorem parseDataType_not_word (hnw : ∀ v q, tokenAt env i ≠ .word v q) :
    ∃ m k, parseDataType env i = .error (.message m k) := by
  have hty : ∃ m k, parseDataTypeWith (env.tokens.size + 1) env i = .error (.message m k) := by
    rw [parseDataTypeWith.eq_def]
    simp only
    rw [run_bind_ok next_run]
    have hnw' : ∀ v q, (env.tokens.getD i eofToken).token ≠ .word v q := hnw
    cases ht : (env.tokens.getD i eofToken).token
    case word v q => exact absurd ht (hnw' v q)
    all_goals exact ⟨_, _, rfl⟩
  obtain ⟨m, k, hty⟩ := hty
  unfold parseDataType
  rw [run_bind_ok read_run, run_bind_error hty]
  exact ⟨m, k, rfl⟩

/-- At a token other than a word, the typed-string attempt fails at once, and the
prefix is the operand when no `COLLATE` follows it. -/
theorem parsePrefix_not_word (n : Nat) {e : Expr} (hnw : ∀ v q, tokenAt env i ≠ .word v q)
    (hop : parseOperand n env i = .ok (e, j)) (hc : (tokenAt env j).isKeyword "COLLATE" = false) :
    parsePrefix (n + 1) env i = .ok (e, j) := by
  obtain ⟨m, k, hty⟩ := parseDataType_not_word hnw
  rw [parsePrefix.eq_def]
  simp only
  rw [run_bind_ok (maybeParse_of_fails ⟨m, k, run_bind_error hty⟩)]
  simp only
  rw [run_bind_ok hop, run_bind_ok (parseKeyword_of_ne hc)]
  rfl

/-! ## Literal values -/

theorem parseValue_number {s : String} {long : Bool} (h : tokenAt env i = .number s long) :
    parseValue env i = .ok (.number s, i + 1) := by
  have h' : (env.tokens.getD i eofToken).token = .number s long := h
  unfold parseValue
  rw [run_bind_ok next_run, h']
  rfl

/-- A token that is no string, which the dialects that join adjacent strings do not
join to the string before it. -/
def NoString (t : Token) : Prop := ∀ s, t ≠ .singleQuoted s ∧ t ≠ .doubleQuoted s

theorem AfterWord.noString {t : Token} (h : AfterWord t) : NoString t := by
  intro s
  rcases h with rfl | rfl | rfl | rfl <;> exact ⟨Token.noConfusion, Token.noConfusion⟩

theorem concatStrings_stop {s : String} (he : NoString (tokenAt env i)) :
    concatStrings s env i = .ok (s, i) := by
  unfold concatStrings
  rw [run_bind_ok dialect_run]
  split
  · rfl
  · rw [iterate_stop]
    rw [run_bind_ok peekToken_run]
    cases ht : tokenAt env i with
    | singleQuoted t => exact absurd ht (he t).1
    | doubleQuoted t => exact absurd ht (he t).2
    | _ => rfl

/-- A quoted string followed by a token that is no string is joined to no other
string. -/
theorem parseValue_singleQuoted {s : String} (h : tokenAt env i = .singleQuoted s)
    (he : NoString (tokenAt env (i + 1))) : parseValue env i = .ok (.singleQuoted s, i + 1) := by
  have h' : (env.tokens.getD i eofToken).token = .singleQuoted s := h
  unfold parseValue
  rw [run_bind_ok next_run, h']
  simp only
  rw [run_bind_ok (concatStrings_stop he)]
  rfl

theorem parseValue_null (h : tokenAt env i = .word "NULL" none) :
    parseValue env i = .ok (.null, i + 1) := by
  have h' : (env.tokens.getD i eofToken).token = .word "NULL" none := h
  unfold parseValue
  rw [run_bind_ok next_run, h']
  rfl

theorem parseValue_boolean {b : Bool} (h : tokenAt env i = .word (if b then "true" else "false") none)
    (hb : env.dialect.hasBooleanLiterals = true) : parseValue env i = .ok (.boolean b, i + 1) := by
  have h' : (env.tokens.getD i eofToken).token = .word (if b then "true" else "false") none := h
  unfold parseValue
  rw [run_bind_ok next_run, h']
  cases b
  all_goals
    change (dialect >>= _) env (i + 1) = _
    rw [run_bind_ok dialect_run, hb]
    rfl

theorem prefixByReservedWord_null (n : Nat) {t : Located} (ht : t.token = .word "NULL" none)
    (hw : tokenAt env i = .word "NULL" none) :
    prefixByReservedWord (n + 1) t env (i + 1) = .ok (some (.value .null), i + 1) := by
  rw [prefixByReservedWord.eq_def]
  simp only
  rw [run_bind_ok dialect_run]
  simp only [ht]
  change (back >>= _) env (i + 1) = _
  rw [run_bind_ok back_run, Nat.add_sub_cancel, run_bind_ok (parseValue_null hw)]
  rfl

/-- `true` and `false` are literals in a dialect that has them, and words of no
meaning of their own in the others. -/
theorem prefixByReservedWord_boolean (n : Nat) {t : Located} {b : Bool}
    (ht : t.token = .word (if b then "true" else "false") none)
    (hw : tokenAt env i = .word (if b then "true" else "false") none) :
    prefixByReservedWord (n + 1) t env (i + 1) =
      if env.dialect.hasBooleanLiterals then .ok (some (.value (.boolean b)), i + 1)
      else .ok (none, i + 1) := by
  rw [prefixByReservedWord.eq_def]
  simp only
  rw [run_bind_ok dialect_run]
  cases b <;> simp only [Bool.false_eq_true, ↓reduceIte] at ht hw ⊢ <;> simp only [ht]
  all_goals
    change ((if env.dialect.hasBooleanLiterals = true then _ else _ : Parser (Option Expr))
      env (i + 1) = _)
    cases hb : env.dialect.hasBooleanLiterals
    · rfl
    · simp only [↓reduceIte]
      rw [run_bind_ok back_run, Nat.add_sub_cancel, run_bind_ok (parseValue_boolean ?_ hb)]
      · rfl
      · simpa only [Bool.false_eq_true, ↓reduceIte] using hw

/-- A number or a quoted string is read as the value it stands for. -/
theorem parseOperand_value (n : Nat) {t : Token} {v : Value}
    (ht : tokenAt env i = t) (htok : (∃ s long, t = .number s long) ∨ ∃ s, t = .singleQuoted s)
    (hv : parseValue env i = .ok (v, i + 1)) :
    parseOperand (n + 1) env i = .ok (.value v, i + 1) := by
  have ht' : (env.tokens.getD i eofToken).token = t := ht
  rw [parseOperand.eq_def]
  simp only
  rw [run_bind_ok dialect_run, run_bind_ok next_run, ht']
  rcases htok with ⟨s, long, rfl⟩ | ⟨s, rfl⟩
  all_goals
    change (back >>= _) env (i + 1) = _
    rw [run_bind_ok back_run, Nat.add_sub_cancel, run_bind_ok hv]
    rfl

/-- A minus sign applies to the operand read after it at the binding strength of
multiplication. -/
theorem parseOperand_minus (n : Nat) {r : Expr} (ht : tokenAt env i = .sym "-")
    (hr : parseSubexpr n (Level.value env.dialect .mulDivMod) env (i + 1) = .ok (r, j)) :
    parseOperand (n + 1) env i = .ok (.unary .minus r, j) := by
  have ht' : (env.tokens.getD i eofToken).token = .sym "-" := ht
  rw [parseOperand.eq_def]
  simp only
  rw [run_bind_ok dialect_run, run_bind_ok next_run, ht']
  change (prec .mulDivMod >>= _) env (i + 1) = _
  rw [run_bind_ok (prec_run _), run_bind_ok hr]
  rfl

end SqlScope.Sql.Parser
