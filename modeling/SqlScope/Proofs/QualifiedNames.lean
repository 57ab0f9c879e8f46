import SqlScope.Scope.Names
import SqlScope.Proofs.Lowercase
import Mathlib.Data.List.DropRight
import Mathlib.Data.List.Forall2

/-!
# Reading qualified table names

A rule names its table as dotted text, each part bare or quoted. Splitting that text at the
dots outside quotes loses nothing: joining the parts with dots gives the text back, whatever
it is. And it reads the parts a writer meant. When each part of a dotted name is written
bare (no dot and no opening quote in it) or between a quote pair whose closing quote it does
not contain, in any letter case that lowercasing undoes, the split gives exactly the written
parts, so a quoted part keeps its dots. The target read from the rendering of any trailing
parts of a name then refers to a table of that name, provided no part of the name has white
space or a quote pair around it.

## Main statements

- `intercalate_splitQualified`: joining the parts of any text with dots gives the text back.
- `splitQualified_intercalate`: the parts of a rendered name are its rendered parts.
- `refersTo_rendered_suffix`: the rendering of any trailing parts of a name refers to it.
- `qualified_names_round_trip`: the three together.
-/

namespace SqlScope.Scope

open SqlScope.Text SqlScope.Sql

/-! ## Splitting gives the text back -/

theorem splitParts_ne_nil (cs current : List Char) (closing : Option Char) :
    splitParts cs current closing ≠ [] := by
  induction cs generalizing current closing with
  | nil => simp [splitParts]
  | cons c rest ih =>
    cases closing with
    | some close => exact ih _ _
    | none =>
      simp only [splitParts]
      split
      · exact List.cons_ne_nil _ _
      · exact ih _ _

/-- Joining the parts read from `cs` with dots gives the part read so far followed by `cs`. -/
theorem intercalate_splitParts (cs current : List Char) (closing : Option Char) :
    ".".intercalate (splitParts cs current closing) = String.ofList (current.reverse ++ cs) := by
  induction cs generalizing current closing with
  | nil => simp [splitParts]
  | cons c rest ih =>
    cases closing with
    | some close => simp [splitParts, ih]
    | none =>
      simp only [splitParts]
      split
      · -- a dot outside quotes closes the part and is given back by the join
        rename_i hdot
        rw [String.intercalate_cons_of_ne_nil (splitParts_ne_nil _ _ _), ih, beq_iff_eq.mp hdot]
        simp [String.ofList_append, String.append_assoc]
      · simp [ih]

/-- Joining the parts of any text with dots gives the text back. -/
theorem intercalate_splitQualified (s : String) : ".".intercalate (splitQualified s) = s := by
  rw [splitQualified, intercalate_splitParts]
  simp [String.ofList_toList]

/-! ## Splitting a rendered name -/

theorem quotePairs_fst_ne_dot : ∀ p ∈ quotePairs, p.1 ≠ '.' := by decide

/-- Quote characters are delimiters of names: they have no case and are no white space. -/
theorem quotePairs_delimiters : ∀ p ∈ quotePairs,
    isNameDelimiter p.1 = true ∧ isNameDelimiter p.2 = true ∧
      isWhitespace p.1 = false ∧ isWhitespace p.2 = false := by
  decide +kernel

theorem closingQuote?_eq_none_iff {c : Char} :
    closingQuote? c = none ↔ ∀ p ∈ quotePairs, c ≠ p.1 := by
  simp only [closingQuote?, Option.map_eq_none_iff, List.find?_eq_none, beq_iff_eq]
  exact forall₂_congr fun p _ => ne_comm.symm

theorem closingQuote?_of_mem {o c : Char} (h : (o, c) ∈ quotePairs) : closingQuote? o = some c := by
  simp only [quotePairs, List.mem_cons, List.not_mem_nil, or_false, Prod.mk.injEq] at h
  rcases h with ⟨rfl, rfl⟩ | ⟨rfl, rfl⟩ | ⟨rfl, rfl⟩ <;> rfl

/-- Outside quotes, a stretch with no dot and no opening quote is added to the part being
read. -/
theorem splitParts_bare (m rest current : List Char) (hdot : '.' ∉ m)
    (hquote : ∀ p ∈ quotePairs, p.1 ∉ m) :
    splitParts (m ++ rest) current none = splitParts rest (m.reverse ++ current) none := by
  induction m generalizing current with
  | nil => rfl
  | cons c m ih =>
    have hc : c ≠ '.' := fun hc => hdot (hc ▸ List.mem_cons_self)
    have hopen : ∀ p ∈ quotePairs, c ≠ p.1 := fun p hp hc => hquote p hp (hc ▸ List.mem_cons_self)
    rw [List.cons_append, splitParts, if_neg (by simpa using hc), closingQuote?_eq_none_iff.mpr hopen,
      ih _ (fun hm => hdot (List.mem_cons_of_mem c hm))
        fun p hp hm => hquote p hp (List.mem_cons_of_mem c hm)]
    simp

/-- Inside quotes, a stretch without the closing quote is added to the part being read,
dots and other quotes included. -/
theorem splitParts_quoted (m rest current : List Char) (close : Char) (h : close ∉ m) :
    splitParts (m ++ rest) current (some close) =
      splitParts rest (m.reverse ++ current) (some close) := by
  induction m generalizing current with
  | nil => rfl
  | cons c m ih =>
    have hc : c ≠ close := fun hc => h (hc ▸ List.mem_cons_self)
    rw [List.cons_append, splitParts, if_neg (by simpa using hc),
      ih _ fun hm => h (List.mem_cons_of_mem c hm)]
    simp

/-- How one part of a dotted name may be written for an identifier of value `n`: bare, with
no dot and no opening quote in it, or between a quote pair whose closing quote it does not
contain; in either case in any letter case that lowercasing undoes. -/
inductive Spells : String → String → Prop
  | bare {m n : String} : '.' ∉ m.toList → (∀ p ∈ quotePairs, p.1 ∉ m.toList) →
      lowercase m = lowercase n → Spells m n
  | quoted {m n : String} {o c : Char} : (o, c) ∈ quotePairs → c ∉ m.toList →
      lowercase m = lowercase n → Spells (String.ofList (o :: m.toList ++ [c])) n

/-- A written part is read whole, and reading ends outside quotes. -/
theorem Spells.splitParts_append {r n : String} (h : Spells r n) (rest current : List Char) :
    splitParts (r.toList ++ rest) current none =
      splitParts rest (r.toList.reverse ++ current) none := by
  cases h with
  | bare hdot hquote _ => exact splitParts_bare _ rest current hdot hquote
  | @quoted m _ o c hp hc _ =>
    -- the opening quote starts a quoted stretch that only the closing quote ends
    have ho : o ≠ '.' := quotePairs_fst_ne_dot _ hp
    rw [String.toList_ofList, List.append_assoc, List.cons_append, splitParts,
      if_neg (by simpa using ho), closingQuote?_of_mem hp, List.singleton_append,
      splitParts_quoted _ _ _ _ hc, splitParts]
    simp

/-- The parts of a rendered name are its rendered parts. -/
theorem splitQualified_intercalate {rs ns : List String} (hspells : List.Forall₂ Spells rs ns)
    (hrs : rs ≠ []) : splitQualified (".".intercalate rs) = rs := by
  induction hspells with
  | nil => exact absurd rfl hrs
  | @cons r n rs ns hr htail ih =>
    cases rs with
    | nil =>
      have hsplit := hr.splitParts_append [] []
      rw [List.append_nil] at hsplit
      simp [splitQualified, hsplit, splitParts]
    | cons r' rs =>
      -- the part, then the dot outside quotes that closes it, then the other parts
      rw [String.intercalate_cons_cons, splitQualified, String.toList_append, String.toList_append,
        List.append_assoc, hr.splitParts_append]
      have hdot : ".".toList = ['.'] := rfl
      rw [hdot, List.singleton_append, splitParts, if_pos (beq_self_eq_true _), List.append_nil,
        List.reverse_reverse, String.ofList_toList]
      exact congrArg (r :: ·) (ih (List.cons_ne_nil _ _))

/-! ## Plain names -/

theorem forall_mem_head?_iff {l : List Char} {P : Char → Prop} :
    (∀ c ∈ l.head?, P c) ↔ ∀ hl : 0 < l.length, P l[0] := by
  cases l <;> simp

theorem forall_mem_getLast?_iff {l : List Char} {P : Char → Prop} :
    (∀ c ∈ l.getLast?, P c) ↔ ∀ hl : l ≠ [], P (l.getLast hl) := by
  by_cases hl : l = []
  · simp [hl]
  · simp [List.getLast?_eq_some_getLast hl, hl]

/-- `trim` leaves a text alone exactly when the text neither starts nor ends with white
space. -/
theorem trim_eq_self_iff (s : String) :
    trim s = s ↔ (∀ c ∈ s.toList.head?, isWhitespace c = false) ∧
      ∀ c ∈ s.toList.getLast?, isWhitespace c = false := by
  -- `trim` drops white space from the front and then from the back
  have htrim :
      trim s = String.ofList ((s.toList.dropWhile isWhitespace).rdropWhile isWhitespace) := rfl
  simp only [forall_mem_head?_iff, forall_mem_getLast?_iff, ← Bool.not_eq_true]
  rw [htrim, ← String.toList_inj, String.toList_ofList, ← List.dropWhile_eq_self_iff,
    ← List.rdropWhile_eq_self_iff]
  constructor
  · intro h
    -- the front is a suffix and the back a prefix of it, so nothing was dropped
    have hdrop : s.toList.dropWhile isWhitespace = s.toList := by
      apply (List.dropWhile_suffix isWhitespace).eq_of_length
      have h1 := (List.rdropWhile_prefix (p := isWhitespace)
        (l := s.toList.dropWhile isWhitespace)).length_le
      have h2 := (List.dropWhile_suffix isWhitespace (l := s.toList)).length_le
      rw [h] at h1
      omega
    rw [hdrop] at h
    exact ⟨hdrop, h⟩
  · rintro ⟨hdrop, hback⟩
    rw [hdrop, hback]

/-- A text is wrapped in quotes exactly when it has two characters or more, starts with an
opening quote and ends with the matching closing quote. -/
theorem surroundingQuote_eq_some_iff {cs : List Char} {q : Char} :
    surroundingQuote cs = some q ↔
      2 ≤ cs.length ∧ cs.head? = some q ∧ ∃ c, (q, c) ∈ quotePairs ∧ cs.getLast? = some c := by
  match cs with
  | [] => simp [surroundingQuote]
  | [a] => simp [surroundingQuote]
  | a :: b :: rest =>
    obtain ⟨l, hl⟩ : ∃ l, (a :: b :: rest).getLast? = some l :=
      ⟨_, List.getLast?_eq_some_getLast (List.cons_ne_nil _ _)⟩
    simp only [surroundingQuote, hl, List.length_cons, List.head?_cons, Option.some.injEq]
    constructor
    · intro h
      obtain ⟨⟨p1, p2⟩, hp, rfl⟩ := Option.map_eq_some_iff.mp h
      have hpred := List.find?_some hp
      simp only [Bool.and_eq_true, beq_iff_eq] at hpred
      obtain ⟨rfl, rfl⟩ := hpred
      exact ⟨by omega, rfl, p2, List.mem_of_find?_eq_some hp, rfl⟩
    · rintro ⟨-, rfl, c, hmem, rfl⟩
      cases hf : quotePairs.find? (fun p => p.1 == a && p.2 == l) with
      | none => exact absurd (List.find?_eq_none.mp hf _ hmem) (by simp)
      | some p =>
        have hpred := List.find?_some hf
        simp only [Bool.and_eq_true, beq_iff_eq] at hpred
        simp [hpred.1]

/-- A name with no white space and no quote pair around it: one that `stripQuotes` leaves
alone. -/
structure Plain (n : String) : Prop where
  trim_eq : trim n = n
  surroundingQuote_eq : surroundingQuote n.toList = none

instance : DecidablePred Plain := fun n =>
  decidable_of_iff (trim n = n ∧ surroundingQuote n.toList = none)
    ⟨fun ⟨h1, h2⟩ => ⟨h1, h2⟩, fun ⟨h1, h2⟩ => ⟨h1, h2⟩⟩

theorem Plain.stripQuotes_eq {n : String} (h : Plain n) : stripQuotes n = n := by
  simp only [stripQuotes, h.trim_eq, h.surroundingQuote_eq, String.ofList_toList]

/-- A quoted part loses exactly its quotes, whatever stands between them. -/
theorem stripQuotes_quoted {o c : Char} (h : (o, c) ∈ quotePairs) (m : String) :
    stripQuotes (String.ofList (o :: m.toList ++ [c])) = m := by
  obtain ⟨-, -, ho, hc⟩ := quotePairs_delimiters _ h
  have hlast : (o :: m.toList ++ [c]).getLast? = some c := List.getLast?_concat
  have htrim :
      trim (String.ofList (o :: m.toList ++ [c])) = String.ofList (o :: m.toList ++ [c]) := by
    rw [trim_eq_self_iff, String.toList_ofList, hlast]
    exact ⟨by simpa using ho, by simpa using hc⟩
  have hq : surroundingQuote (o :: m.toList ++ [c]) = some o :=
    surroundingQuote_eq_some_iff.mpr ⟨by simp, rfl, c, h, hlast⟩
  simp only [stripQuotes, htrim, String.toList_ofList, hq]
  simp

theorem isNameDelimiter_of_isWhitespace {c : Char} (h : isWhitespace c = true) :
    isNameDelimiter c = true := by
  simp [isNameDelimiter, h]

/-- Lowercasing keeps white space and quotes where they are, so a name that agrees with a
plain name up to letter case is plain too. -/
theorem Plain.of_lowercase_eq {m n : String} (hn : Plain n) (hmn : lowercase m = lowercase n) :
    Plain m := by
  have hl : lowerChars [] m.toList = lowerChars [] n.toList := by
    simpa [lowercase] using congrArg String.toList hmn
  -- a delimiter starts (ends) `m` exactly when it starts (ends) `n`
  have hhead : ∀ d, isNameDelimiter d = true →
      (m.toList.head? = some d ↔ n.toList.head? = some d) :=
    fun d hd => by rw [← head?_lowerChars_eq_iff hd [], hl, head?_lowerChars_eq_iff hd]
  have hlast : ∀ d, isNameDelimiter d = true →
      (m.toList.getLast? = some d ↔ n.toList.getLast? = some d) :=
    fun d hd => by rw [← getLast?_lowerChars_eq_iff hd [], hl, getLast?_lowerChars_eq_iff hd]
  obtain ⟨hnhead, hnlast⟩ := (trim_eq_self_iff n).mp hn.trim_eq
  constructor
  · rw [trim_eq_self_iff]
    constructor
    · intro c hc
      cases hw : isWhitespace c
      · rfl
      · simpa [hw] using hnhead c ((hhead c (isNameDelimiter_of_isWhitespace hw)).mp hc)
    · intro c hc
      cases hw : isWhitespace c
      · rfl
      · simpa [hw] using hnlast c ((hlast c (isNameDelimiter_of_isWhitespace hw)).mp hc)
  · cases hq : surroundingQuote m.toList with
    | none => rfl
    | some q =>
      obtain ⟨hlen, hqhead, c, hp, hclast⟩ := surroundingQuote_eq_some_iff.mp hq
      obtain ⟨hq1, hc1, -, -⟩ := quotePairs_delimiters _ hp
      have hnq := (hhead q hq1).mp hqhead
      -- `n` has two characters or more: a lone quote lowercases to itself alone
      have hnlen : 2 ≤ n.toList.length := by
        rcases hns : n.toList with _ | ⟨x, _ | ⟨y, rest⟩⟩
        · rw [hns] at hnq
          cases hnq
        · rw [hns] at hnq
          obtain rfl : x = q := by simpa using hnq
          have hone : (lowerChars [] m.toList).length = 1 := by
            rw [hl, hns, lowerChars_cons, lowerAt_of_isNameDelimiter hq1]
            rfl
          have := length_le_lowerChars [] m.toList
          omega
        · simp
      have hnwrapped : surroundingQuote n.toList = some q :=
        surroundingQuote_eq_some_iff.mpr ⟨hnlen, hnq, c, hp, (hlast c hc1).mp hclast⟩
      rw [hn.surroundingQuote_eq] at hnwrapped
      cases hnwrapped

/-- A plain name equals each of its spellings that lowercasing undoes. -/
theorem Plain.namesEqual_of_lowercase_eq {m n : String} (hn : Plain n)
    (hmn : lowercase m = lowercase n) : namesEqual n m = true := by
  rw [namesEqual, hn.stripQuotes_eq, (hn.of_lowercase_eq hmn).stripQuotes_eq, hmn, beq_self_eq_true]

/-- A written part, its quotes removed, equals the plain name it spells. -/
theorem Spells.namesEqual_stripQuotes {r n : String} (h : Spells r n) (hn : Plain n) :
    namesEqual n (stripQuotes r) = true := by
  cases h with
  | bare _ _ hmn =>
    rw [(hn.of_lowercase_eq hmn).stripQuotes_eq]
    exact hn.namesEqual_of_lowercase_eq hmn
  | quoted hp _ hmn =>
    rw [stripQuotes_quoted hp]
    exact hn.namesEqual_of_lowercase_eq hmn

/-! ## Matching the rendered trailing parts -/

/-- With no alias, a target refers to a name when its parts equal the trailing parts of the
name, from the `k`-th on. -/
theorem refersTo_none_of_forall₂ {t : TableTarget} {name : Name} {k : Nat}
    (hk : k ≤ name.parts.length)
    (h : List.Forall₂ (fun d w => namesEqual d w = true)
      ((name.parts.map Ident.value).drop k) t.parts) :
    t.refersTo name none = true := by
  obtain ⟨hlen, hzip⟩ := List.forall₂_iff_zip.mp h
  simp only [List.length_drop, List.length_map] at hlen
  have hskip : name.parts.length - t.parts.length = k := by omega
  unfold TableTarget.refersTo
  -- the parts alone decide it, whatever the one-part alias case gives
  simp only [Bool.or_eq_true]
  refine .inr ?_
  simp only [Bool.and_eq_true, decide_eq_true_eq, List.all_eq_true, List.length_map, hskip]
  refine ⟨by omega, ?_⟩
  rintro ⟨d, w⟩ hmem
  exact hzip hmem

/-- The target read from the rendering of the trailing parts of a plain name, from the `k`-th
on, refers to a table of that name, with no alias needed. -/
theorem refersTo_rendered_suffix {rs ns : List String} (hspells : List.Forall₂ Spells rs ns)
    (hplain : ∀ n ∈ ns, Plain n) {name : Name} (hname : name.parts.map Ident.value = ns)
    {k : Nat} (hk : k < ns.length) :
    (TableTarget.ofString (".".intercalate (rs.drop k))).refersTo name none = true := by
  have hlen := hspells.length_eq
  have hsuffix := List.forall₂_drop k hspells
  -- the target's parts are the rendered trailing parts without their quotes
  have hparts : (TableTarget.ofString (".".intercalate (rs.drop k))).parts =
      (rs.drop k).map stripQuotes := by
    rw [TableTarget.ofString, splitQualified_intercalate hsuffix (by simp; omega)]
  have hdeclared : name.parts.length = ns.length := by rw [← hname, List.length_map]
  apply refersTo_none_of_forall₂ (show k ≤ name.parts.length by omega)
  rw [hparts, hname, List.forall₂_map_right_iff]
  -- each trailing part of the name is equal to the part that spells it
  refine List.forall₂_iff_zip.mpr ⟨hsuffix.length_eq.symm, fun {n r} hmem => ?_⟩
  have hspell : Spells r n := List.forall₂_zip hsuffix.flip hmem
  exact hspell.namesEqual_stripQuotes (hplain n (List.mem_of_mem_drop (List.of_mem_zip hmem).1))

/-- Qualified names round-trip. Splitting any text at the dots outside quotes and joining the
parts with dots gives the text back. A name written part by part as `Spells` says splits into
exactly its written parts, so a quoted part keeps its dots, and the rendering of any trailing
parts of a name whose parts are plain refers to a table of that name. -/
theorem qualified_names_round_trip :
    (∀ s : String, ".".intercalate (splitQualified s) = s) ∧
    ∀ (rs ns : List String), ns ≠ [] → List.Forall₂ Spells rs ns → (∀ n ∈ ns, Plain n) →
      splitQualified (".".intercalate rs) = rs ∧
      ∀ name : Name, name.parts.map Ident.value = ns → ∀ k < ns.length,
        (TableTarget.ofString (".".intercalate (rs.drop k))).refersTo name none = true := by
  refine ⟨intercalate_splitQualified, fun rs ns hns hspells hplain => ⟨?_, ?_⟩⟩
  · apply splitQualified_intercalate hspells
    rintro rfl
    exact hns (List.forall₂_nil_left_iff.mp hspells)
  · intro name hname k hk
    exact refersTo_rendered_suffix hspells hplain hname hk

/-- `PUBLIC."My.Table"` splits into its two written parts, the dot inside the quotes kept, and
both it and its last part refer to the table `public."my.table"`. -/
theorem quoted_dotted_name_round_trip :
    splitQualified (".".intercalate ["PUBLIC", "\"My.Table\""]) = ["PUBLIC", "\"My.Table\""] ∧
    (TableTarget.ofString (".".intercalate ["PUBLIC", "\"My.Table\""])).refersTo
      ⟨[⟨"public", none⟩, ⟨"my.table", some '"'⟩]⟩ none = true ∧
    (TableTarget.ofString (".".intercalate ["\"My.Table\""])).refersTo
      ⟨[⟨"public", none⟩, ⟨"my.table", some '"'⟩]⟩ none = true := by
  have hquoted : Spells "\"My.Table\"" "my.table" := by
    have h := Spells.quoted (m := "My.Table") (n := "my.table")
      (show ('"', '"') ∈ quotePairs from List.mem_cons_self) (by decide) (by decide +kernel)
    rwa [show String.ofList ('"' :: "My.Table".toList ++ ['"']) = "\"My.Table\"" by decide] at h
  have hspells : List.Forall₂ Spells ["PUBLIC", "\"My.Table\""] ["public", "my.table"] :=
    .cons (.bare (by decide) (by decide) (by decide +kernel)) (.cons hquoted .nil)
  obtain ⟨hsplit, hrefers⟩ :=
    qualified_names_round_trip.2 _ _ (by simp) hspells (by decide)
  exact ⟨hsplit, hrefers _ rfl 0 (by decide), hrefers _ rfl 1 (by decide)⟩

end SqlScope.Scope
