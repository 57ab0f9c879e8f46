import SqlScope.Config.Check
import SqlScope.Proofs.Lowercase
import Mathlib.Data.List.Find

/-!
# Rules that repeat an earlier rule

The check warns about each rule of a file (the rules of a group taken one by one) whose
key an earlier rule already has, and names the first rule with that key. The key is the
rule's kind, its statement for a condition, and its table and column lowercased and
joined by a dot. So the warnings follow the keys exactly (`duplicateFindings_eq`).

Keys tell rules apart by kind, statement, table and column only while no column holds a
dot: joined by a dot, the table `a.b` with the column `c` and the table `a` with the column
`b.c` give the same key, and the second rule is reported as a repeat of the first.

## Main statements

- `duplicateFindings_eq`: the warnings, in order, for every list of rules.
- `RuleDef.key_eq_iff_sameRule`: when neither column holds a dot, two rules have the same
  key exactly when they are the same rule up to the case of their names.
- `duplicate_warnings_follow_keys`: both, for the rules of a file.
-/

namespace SqlScope.Config

open SqlScope.Text SqlScope.Scope

/-- The warning for the rule at `place`, which repeats the rule at `first` under the key `k`. -/
def duplicateWarning (place first k : String) : Finding :=
  ⟨.warning, "duplicate-rule", "Same rule as " ++ first ++ " (" ++ k ++ ")", true, some place⟩

/-- The warning, if any, for the rule at position `j` of `leaves`: when it has a key, and a
rule before it has the same one, it repeats the first of those. -/
def warningAt (leaves : List (String × RuleDef)) : (String × RuleDef) × Nat → Option Finding
  | (e, j) => e.2.key.bind fun k =>
    ((leaves.take j).find? fun e' => e'.2.key == some k).map fun first => duplicateWarning e.1 first.1 k

/-- One step of the check for repeats: the keys seen so far with the place of their first
rule, and the warnings so far. -/
def duplicateStep (acc : List (String × String) × List Finding) (entry : String × RuleDef) :
    List (String × String) × List Finding :=
  let (seen, found) := acc
  match entry.2.key with
  | none => acc
  | some k =>
    match seen.find? (·.1 == k) with
    | some (_, first) => (seen, found ++ [duplicateWarning entry.1 first k])
    | none => (seen ++ [(k, entry.1)], found)

theorem duplicateFindings_eq_foldl (leaves : List (String × RuleDef)) :
    duplicateFindings leaves = (leaves.foldl duplicateStep ([], [])).2 := rfl

/-- The keys seen after the rules `pre`: each key is recorded with the place of the first rule
of `pre` that has it. -/
def SeenKeys (pre : List (String × RuleDef)) (seen : List (String × String)) : Prop :=
  ∀ k, seen.find? (·.1 == k) = (pre.find? fun e => e.2.key == some k).map fun e => (k, e.1)

theorem warningAt_append (pre post : List (String × RuleDef)) {x : (String × RuleDef) × Nat}
    (hx : x ∈ pre.zipIdx) : warningAt (pre ++ post) x = warningAt pre x := by
  obtain ⟨e, j⟩ := x
  have hj : j ≤ pre.length := Nat.le_of_lt (List.snd_lt_of_mem_zipIdx hx)
  simp only [warningAt, List.take_append_of_le_length hj]

/-- The warnings for the rules `pre ++ [e]` are those for `pre` and then the one for `e`. -/
theorem filterMap_warningAt_append (pre : List (String × RuleDef)) (e : String × RuleDef) :
    (pre ++ [e]).zipIdx.filterMap (warningAt (pre ++ [e])) =
      pre.zipIdx.filterMap (warningAt pre) ++
        (e.2.key.bind fun k => ((pre.find? fun e' => e'.2.key == some k).map fun first =>
          duplicateWarning e.1 first.1 k)).toList := by
  rw [List.zipIdx_append, List.filterMap_append,
    List.filterMap_congr fun x hx => warningAt_append pre [e] hx]
  congr 1
  simp only [List.zipIdx_singleton, Nat.zero_add, List.filterMap_cons, List.filterMap_nil,
    warningAt, List.take_left]
  cases (e.2.key.bind fun k => ((pre.find? fun e' => e'.2.key == some k).map fun first =>
    duplicateWarning e.1 first.1 k)) <;> rfl

/-- One step of the check keeps the record of first places and adds the warning for the
rule it reads. -/
theorem duplicateStep_spec {pre : List (String × RuleDef)} {seen : List (String × String)}
    (hseen : SeenKeys pre seen) (found : List Finding) (e : String × RuleDef) :
    SeenKeys (pre ++ [e]) (duplicateStep (seen, found) e).1 ∧
      (duplicateStep (seen, found) e).2 = found ++
        (e.2.key.bind fun k => ((pre.find? fun e' => e'.2.key == some k).map fun first =>
          duplicateWarning e.1 first.1 k)).toList := by
  cases hk : e.2.key with
  | none =>
    -- a group has no key: nothing is recorded and nothing is said
    refine ⟨fun k => ?_, by simp [duplicateStep, hk]⟩
    simp only [duplicateStep, hk, List.find?_append, hseen k]
    cases pre.find? (fun e => e.2.key == some k) <;> simp [hk]
  | some k₀ =>
    have hs := hseen k₀
    cases hf : seen.find? (·.1 == k₀) with
    | some sf =>
      -- the key was seen: the rule repeats the first rule with it
      obtain ⟨k', first⟩ := sf
      rw [hf] at hs
      obtain ⟨e', he', hke⟩ := Option.map_eq_some_iff.mp hs.symm
      obtain ⟨-, rfl⟩ := Prod.mk.inj hke
      refine ⟨fun k => ?_, ?_⟩
      · simp only [duplicateStep, hk, hf, List.find?_append, hseen k]
        cases hpk : pre.find? (fun e => e.2.key == some k) with
        | some _ => rfl
        | none =>
          -- the key `k` was not seen, so it is not `k₀`, and `e` does not have it
          have hne : k₀ ≠ k := by
            rintro rfl
            rw [he'] at hpk
            cases hpk
          simp [hk, hne]
      · simp [duplicateStep, hk, hf, he']
    | none =>
      -- the key is new: it is recorded with this rule's place
      rw [hf] at hs
      have hpre : pre.find? (fun e => e.2.key == some k₀) = none := Option.map_eq_none_iff.mp hs.symm
      refine ⟨fun k => ?_, ?_⟩
      · simp only [duplicateStep, hk, hf, List.find?_append, hseen k]
        by_cases hkk : k₀ = k
        · subst hkk
          simp [hpre, hk]
        · cases pre.find? (fun e => e.2.key == some k) <;> simp [hk, hkk]
      · simp [duplicateStep, hk, hf, hpre]

/-- The check over the rules `rest`, started after the rules `pre`, ends with the warnings for
`pre ++ rest`. -/
theorem foldl_duplicateStep (rest : List (String × RuleDef)) :
    ∀ (pre : List (String × RuleDef)) (seen : List (String × String)),
      SeenKeys pre seen →
      (rest.foldl duplicateStep (seen, pre.zipIdx.filterMap (warningAt pre))).2 =
        (pre ++ rest).zipIdx.filterMap (warningAt (pre ++ rest)) := by
  induction rest with
  | nil => intro pre seen _; rw [List.append_nil]; rfl
  | cons e rest ih =>
    intro pre seen hseen
    obtain ⟨hseen', hfound⟩ := duplicateStep_spec hseen (pre.zipIdx.filterMap (warningAt pre)) e
    rw [List.foldl_cons, ← filterMap_warningAt_append] at *
    have hstate : duplicateStep (seen, pre.zipIdx.filterMap (warningAt pre)) e =
        ((duplicateStep (seen, pre.zipIdx.filterMap (warningAt pre)) e).1,
          (pre ++ [e]).zipIdx.filterMap (warningAt (pre ++ [e]))) := by
      rw [← hfound]
    rw [hstate, ih (pre ++ [e]) _ hseen', List.append_assoc, List.singleton_append]

/-- The check warns, in order, about exactly the rules that have a key some earlier rule
has, each time naming the first rule with that key. -/
theorem duplicateFindings_eq (leaves : List (String × RuleDef)) :
    duplicateFindings leaves = leaves.zipIdx.filterMap (warningAt leaves) := by
  rw [duplicateFindings_eq_foldl]
  have h := foldl_duplicateStep leaves [] [] fun k => rfl
  simpa using h

namespace RuleDef

/-- Whether two rules are the same rule up to the case of their names: both add a condition
to statements of one kind, or both add a column, on equal tables and equal columns. -/
def sameRule : RuleDef → RuleDef → Bool
  | .addCondition d, .addCondition d' =>
    decide (d.statement = d'.statement) && lowercase d.table == lowercase d'.table &&
      lowercase d.column == lowercase d'.column
  | .addColumn d, .addColumn d' =>
    lowercase d.table == lowercase d'.table && lowercase d.column == lowercase d'.column
  | _, _ => false

/-- The table a rule names; a group names none. -/
def table? : RuleDef → Option String
  | .addCondition d => some d.table
  | .addColumn d => some d.table
  | .combined .. => none

/-- The column a rule names; a group names none. -/
def column? : RuleDef → Option String
  | .addCondition d => some d.column
  | .addColumn d => some d.column
  | .combined .. => none

/-- The start of a rule's key: its kind and, for a condition, its statement. -/
def keyHead : RuleDef → String
  | .addCondition d => "add_condition " ++ d.statement.name ++ " "
  | .addColumn _ => "add_column "
  | .combined .. => ""

/-- The key of a rule, read as characters: its start, then its table and column, lowercased and
joined by a dot. -/
theorem key_toList (r : RuleDef) (k : String) (h : r.key = some k) :
    ∃ t c, r.table? = some t ∧ r.column? = some c ∧
      k.toList = (r.keyHead.toList ++ (lowercase t).toList) ++ '.' :: (lowercase c).toList := by
  cases r with
  | addCondition d =>
    cases h
    exact ⟨d.table, d.column, rfl, rfl, by simp [keyHead]⟩
  | addColumn d =>
    cases h
    exact ⟨d.table, d.column, rfl, rfl, by simp [keyHead]⟩
  | combined => cases h

/-- No key start is a proper beginning of another: the four differ within the shorter. -/
theorem keyHead_eq_of_append {r r' : RuleDef} (hr : r.key.isSome) (hr' : r'.key.isSome)
    {x y : List Char} (h : r.keyHead.toList ++ x = r'.keyHead.toList ++ y) :
    r.keyHead = r'.keyHead := by
  have hp : r.keyHead.toList <+: r.keyHead.toList ++ x := List.prefix_append _ _
  have hp' : r'.keyHead.toList <+: r.keyHead.toList ++ x := h ▸ List.prefix_append _ _
  -- of two beginnings of one list, the shorter begins the longer
  have hpre : r.keyHead.toList <+: r'.keyHead.toList ∨ r'.keyHead.toList <+: r.keyHead.toList := by
    rcases Nat.le_total r.keyHead.toList.length r'.keyHead.toList.length with hl | hl
    · exact .inl (List.prefix_of_prefix_length_le hp hp' hl)
    · exact .inr (List.prefix_of_prefix_length_le hp' hp hl)
  rcases r with d | d | _ <;> rcases r' with d' | d' | _ <;> simp only [key, Option.isSome_none,
    Bool.false_eq_true] at hr hr'
  · revert hpre
    simp only [keyHead]
    cases d.statement <;> cases d'.statement <;> decide
  · revert hpre
    simp only [keyHead]
    cases d.statement <;> decide
  · revert hpre
    simp only [keyHead]
    cases d'.statement <;> decide
  · rfl

theorem statement_eq_of_keyHead {d d' : ConditionDef}
    (h : (addCondition d).keyHead = (addCondition d').keyHead) : d.statement = d'.statement := by
  simp only [keyHead] at h
  revert h
  cases d.statement <;> cases d'.statement <;> decide

theorem keyHead_condition_ne_column (d : ConditionDef) (d' : ColumnDef) :
    (addCondition d).keyHead ≠ (addColumn d').keyHead := by
  simp only [keyHead]
  cases d.statement <;> decide

/-- Two texts, each a part, a dot and a part without a dot, are equal only part by part. -/
theorem append_dot_inj {a b a' b' : List Char} (h : a ++ '.' :: b = a' ++ '.' :: b')
    (hb : '.' ∉ b) (hb' : '.' ∉ b') : a = a' ∧ b = b' := by
  rcases List.append_eq_append_iff.mp h with ⟨m, rfl, hm⟩ | ⟨m, rfl, hm⟩
  · cases m with
    | nil => simp_all
    | cons x m =>
      -- the dot after `a'` would stand in `b`
      obtain ⟨rfl, rfl⟩ := List.cons_eq_cons.mp hm
      simp at hb
  · cases m with
    | nil => simp_all
    | cons x m =>
      obtain ⟨rfl, rfl⟩ := List.cons_eq_cons.mp hm
      simp at hb'

/-- While neither column holds a dot, two rules have the same key exactly when they are the
same rule up to the case of their names. -/
theorem key_eq_iff_sameRule {r r' : RuleDef} (h : ∀ c ∈ r.column?, '.' ∉ c.toList)
    (h' : ∀ c ∈ r'.column?, '.' ∉ c.toList) :
    (r.key.isSome ∧ r.key = r'.key) ↔ r.sameRule r' = true := by
  have hdot : isNameDelimiter '.' = true := by decide
  constructor
  · rintro ⟨hs, heq⟩
    obtain ⟨k, hk⟩ := Option.isSome_iff_exists.mp hs
    obtain ⟨t, c, ht, hc, hkl⟩ := key_toList r k hk
    obtain ⟨t', c', ht', hc', hkl'⟩ := key_toList r' k (heq ▸ hk)
    have hs' : r'.key.isSome := heq ▸ hs
    -- the last dot splits each key into its start and table, and its column
    obtain ⟨hpre, hcol⟩ := append_dot_inj (hkl.symm.trans hkl')
      (by rw [mem_lowercase_iff hdot]; exact h c hc)
      (by rw [mem_lowercase_iff hdot]; exact h' c' hc')
    have hhead := keyHead_eq_of_append hs hs' hpre
    rw [hhead] at hpre
    have htab := String.toList_inj.mp (List.append_cancel_left hpre)
    have hcol' := String.toList_inj.mp hcol
    rcases r with d | d | _ <;> rcases r' with d' | d' | _ <;>
      simp only [table?, column?, Option.some_inj, reduceCtorEq] at ht ht' hc hc'
    · subst ht ht' hc hc'
      simp [sameRule, statement_eq_of_keyHead hhead, htab, hcol']
    · exact absurd hhead (keyHead_condition_ne_column d d')
    · exact absurd hhead.symm (keyHead_condition_ne_column d' d)
    · subst ht ht' hc hc'
      simp [sameRule, htab, hcol']
  · intro hsame
    rcases r with d | d | _ <;> rcases r' with d' | d' | _ <;>
      simp only [sameRule, Bool.and_eq_true, decide_eq_true_eq, beq_iff_eq, Bool.false_eq_true]
        at hsame
    · obtain ⟨⟨hst, htab⟩, hcol⟩ := hsame
      simp [key, hst, htab, hcol]
    · obtain ⟨htab, hcol⟩ := hsame
      simp [key, htab, hcol]

end RuleDef

/-- The warning the rule at position `j` of `leaves` should get: when it has a key, and a rule
before it is the same rule, it repeats the first of those. -/
def sameRuleWarningAt (leaves : List (String × RuleDef)) : (String × RuleDef) × Nat → Option Finding
  | (e, j) => e.2.key.bind fun k =>
    ((leaves.take j).find? fun e' => e'.2.sameRule e.2).map fun first => duplicateWarning e.1 first.1 k

/-- The check's warnings about repeated rules, for the rules of a file. Each rule (the rules of
a group taken one by one) gets a warning exactly when an earlier rule has its key, and the
warning names the first of them. While no column of the file holds a dot, that is exactly
when an earlier rule is the same rule up to the case of the names, and the warning names
the first such rule. -/
theorem duplicate_warnings_follow_keys (c : RewriteConfig) :
    duplicateFindings c.leafRules = c.leafRules.zipIdx.filterMap (warningAt c.leafRules) ∧
    ((∀ e ∈ c.leafRules, ∀ col ∈ e.2.column?, '.' ∉ col.toList) →
      duplicateFindings c.leafRules = c.leafRules.zipIdx.filterMap (sameRuleWarningAt c.leafRules)) := by
  refine ⟨duplicateFindings_eq c.leafRules, fun hdot => ?_⟩
  rw [duplicateFindings_eq]
  refine List.filterMap_congr fun x hx => ?_
  obtain ⟨e, j⟩ := x
  have he : e ∈ c.leafRules := List.fst_mem_of_mem_zipIdx hx
  simp only [warningAt, sameRuleWarningAt]
  cases hk : e.2.key with
  | none => rfl
  | some k =>
    -- an earlier rule has the key of `e` exactly when it is the same rule as `e`
    have hfind : ((c.leafRules.take j).find? fun e' => e'.2.key == some k) =
        (c.leafRules.take j).find? fun e' => e'.2.sameRule e.2 := by
      refine List.find?_congr fun e' he' => ?_
      have hsame := RuleDef.key_eq_iff_sameRule (hdot e' (List.mem_of_mem_take he')) (hdot e he)
      rw [hk] at hsame
      rw [Bool.eq_iff_iff, ← hsame, beq_iff_eq]
      constructor
      · intro h
        rw [h]
        exact ⟨rfl, rfl⟩
      · exact fun h => h.2
    simp only [Option.bind_some, hfind]

/-- The rules files of the check's own test: a condition on `tenant`, and a group holding the
same condition on `TENANT`. The second is reported as a repeat of the first. -/
theorem duplicate_warnings_for_tenant_rules :
    let c : RewriteConfig := { rules := [
      .addCondition ⟨.select, "tenant", "tenant_id", .text "T1", none⟩,
      .combined [.addCondition ⟨.select, "TENANT", "tenant_id", .text "T2", none⟩] none] }
    (∀ e ∈ c.leafRules, ∀ col ∈ e.2.column?, '.' ∉ col.toList) ∧
    duplicateFindings c.leafRules = c.leafRules.zipIdx.filterMap (sameRuleWarningAt c.leafRules) ∧
    duplicateFindings c.leafRules =
      [duplicateWarning "rules[1].rules[0]" "rules[0]" "add_condition select tenant.tenant_id"] := by
  intro c
  have hdot : ∀ e ∈ c.leafRules, ∀ col ∈ e.2.column?, '.' ∉ col.toList := by decide
  exact ⟨hdot, (duplicate_warnings_follow_keys c).2 hdot, rfl⟩

/-- The table `a.b` with the column `c`, and the table `a` with the column `b.c`, are two
different rules with one key: the second is reported as a repeat of the first. -/
theorem dotted_names_share_key :
    let r₁ : RuleDef := .addColumn ⟨"a.b", "c", .integer 1, none⟩
    let r₂ : RuleDef := .addColumn ⟨"a", "b.c", .integer 1, none⟩
    r₁.sameRule r₂ = false ∧
    duplicateFindings ({ rules := [r₁, r₂] } : RewriteConfig).leafRules =
      [duplicateWarning "rules[1]" "rules[0]" "add_column a.b.c"] := by
  intro r₁ r₂
  exact ⟨by decide, rfl⟩

end SqlScope.Config
