import SqlScope.Proofs.Coverage
import Mathlib.Data.List.Basic

/-!
# A combined rule and its rules inlined

A combined rule runs a group of typed rules, sorted by their priorities, as one rule of its
own priority. An engine with the combined rule rewrites every text as the engine does in
which the rule is replaced, in place, by its rules in the order it applies them, each taking
the combined rule's priority (`Rule.inlined`). Both engines give the same text; a rewrite
succeeds in one exactly when it does in the other, with the same change, and the rules
applied differ only in that the combined rule's name stands where the other lists those of
its rules that ran; a failure is the same failure, up to the name of a rule that stopped
abnormally.

Three facts make this so. Sorting the rules puts the inlined rules where the combined rule
is, in its order (`sortByPriority_inline`, from the stable sort commuting with putting a block
of one priority in place of an element of that priority). A pass of the inlined rules is a
pass of the combined rule (`Engine.Passes.combined_of_inlined`): the combined rule is meant
for a statement when one of its rules is, and then applies each that is meant for the
statement it is given. And the first failure inside the group is the combined rule's
failure.

## Main statements

- `sortByPriority_flatMap`: a stable sort commutes with expanding elements into blocks of
  their priority.
- `Engine.combined_eq_inlined`: the two engines rewrite and run every text alike.
-/

namespace SqlScope.Scope

open SqlScope.Sql

section StableSort

variable {α β : Type} (prio : α → Int)

theorem priority_le_trans (a b c : α) (hab : decide (prio a ≤ prio b)) (hbc : decide (prio b ≤ prio c)) :
    decide (prio a ≤ prio c) := by
  simp only [decide_eq_true_eq] at *
  omega

theorem priority_le_total (a b : α) : decide (prio a ≤ prio b) || decide (prio b ≤ prio a) := by
  simp only [Bool.or_eq_true, decide_eq_true_eq]
  omega

theorem sortByPriority_pairwise (xs : List α) :
    (sortByPriority prio xs).Pairwise (fun a b => prio a ≤ prio b) := by
  simpa [sortByPriority] using
    List.pairwise_mergeSort (priority_le_trans prio) (priority_le_total prio) xs

/-- Sorting keeps the elements of each priority in the order they were given. -/
theorem sortByPriority_filter (xs : List α) (v : Int) :
    (sortByPriority prio xs).filter (fun x => prio x = v) = xs.filter (fun x => prio x = v) := by
  -- the elements of priority `v` are sorted among themselves, so the sort keeps them in order
  have tied : (xs.filter (fun x => prio x = v)).Pairwise (fun a b => decide (prio a ≤ prio b)) :=
    List.pairwise_of_forall_mem_list fun a ha b hb => by
      simp only [List.mem_filter, decide_eq_true_eq] at ha hb
      simp [ha.2, hb.2]
  have kept : (xs.filter (fun x => prio x = v)).Sublist (sortByPriority prio xs) :=
    List.sublist_mergeSort (priority_le_trans prio) (priority_le_total prio) tied List.filter_sublist
  have hsub := kept.filter (fun x => decide (prio x = v))
  rw [List.filter_filter] at hsub
  simp only [Bool.and_self] at hsub
  have hlen : ((sortByPriority prio xs).filter (fun x => prio x = v)).length =
      (xs.filter (fun x => prio x = v)).length :=
    ((List.mergeSort_perm xs _).filter _).length_eq
  exact (hsub.eq_of_length hlen.symm).symm

/-- An element kept by a filter is in every list that the filter maps to the same list. -/
theorem mem_of_filter_eq {p : α → Bool} {l l' : List α} (hf : l.filter p = l'.filter p) {a : α}
    (ha : a ∈ l') (hp : p a) : a ∈ l := by
  have hm : a ∈ l'.filter p := List.mem_filter.mpr ⟨ha, hp⟩
  rw [← hf] at hm
  exact (List.mem_filter.mp hm).1

/-- The first of a list sorted by priority has the least priority. -/
theorem priority_head_le {a b : α} {r : List α} (h : (a :: r).Pairwise (fun a b => prio a ≤ prio b))
    (hb : b ∈ a :: r) : prio a ≤ prio b := by
  rcases List.mem_cons.mp hb with rfl | hb
  · exact Int.le_refl _
  · exact List.rel_of_pairwise_cons h hb

/-- Two lists sorted by priority that hold, priority by priority, the same elements in the
same order are equal. -/
theorem eq_of_pairwise_of_filter {l l' : List α} (h : l.Pairwise (fun a b => prio a ≤ prio b))
    (h' : l'.Pairwise (fun a b => prio a ≤ prio b))
    (hf : ∀ v, l.filter (fun x => prio x = v) = l'.filter (fun x => prio x = v)) : l = l' := by
  induction l generalizing l' with
  | nil =>
    cases l' with
    | nil => rfl
    | cons b r' => simpa using hf (prio b)
  | cons a r ih =>
    cases l' with
    | nil => simpa using hf (prio a)
    | cons b r' =>
      -- both heads have the least priority of the elements, so the same one
      have hb : b ∈ a :: r := mem_of_filter_eq (hf (prio b)) List.mem_cons_self (by simp)
      have ha : a ∈ b :: r' := mem_of_filter_eq (hf (prio a)).symm List.mem_cons_self (by simp)
      have hab : prio a = prio b :=
        Int.le_antisymm (priority_head_le prio h hb) (priority_head_le prio h' ha)
      have hhead := hf (prio a)
      simp only [List.filter_cons, hab, decide_true, if_true] at hhead
      obtain ⟨rfl, hrest⟩ := List.cons.inj hhead
      refine congrArg (a :: ·) (ih h.of_cons h'.of_cons fun v => ?_)
      by_cases hv : prio a = v
      · subst hv
        rw [← hab] at hrest
        exact hrest
      · have := hf v
        simpa [List.filter_cons, hv] using this

/-- The elements of one priority in the blocks of a list, each block standing for an element
of its priority. -/
theorem filter_flatMap_of_priority (prio' : β → Int) (g : α → List β)
    (hg : ∀ x, ∀ y ∈ g x, prio' y = prio x) (xs : List α) (v : Int) :
    (xs.flatMap g).filter (fun y => prio' y = v) = (xs.filter (fun x => prio x = v)).flatMap g := by
  induction xs with
  | nil => rfl
  | cons x xs ih =>
    rw [List.flatMap_cons, List.filter_append, ih, List.filter_cons]
    by_cases hx : prio x = v
    · -- the whole block has priority `v`
      have hall : (g x).filter (fun y => prio' y = v) = g x :=
        List.filter_eq_self.mpr fun y hy => by simp [hg x y hy, hx]
      simp [hx, hall]
    · have hnone : (g x).filter (fun y => prio' y = v) = [] :=
        List.filter_eq_nil_iff.mpr fun y hy => by simp [hg x y hy, hx]
      simp [hx, hnone]

/-- Sorting commutes with putting a block of elements of one priority in place of each
element of that priority. -/
theorem sortByPriority_flatMap (prio' : β → Int) (g : α → List β)
    (hg : ∀ x, ∀ y ∈ g x, prio' y = prio x) (xs : List α) :
    sortByPriority prio' (xs.flatMap g) = (sortByPriority prio xs).flatMap g := by
  apply eq_of_pairwise_of_filter prio' (sortByPriority_pairwise prio' _)
  · rw [List.pairwise_flatMap]
    refine ⟨fun x _ => List.pairwise_of_forall_mem_list fun a ha b hb =>
        Int.le_of_eq ((hg x a ha).trans (hg x b hb).symm),
      (sortByPriority_pairwise prio xs).imp fun hxy a ha b hb => ?_⟩
    rw [hg _ a ha, hg _ b hb]
    exact hxy
  · intro v
    rw [sortByPriority_filter, filter_flatMap_of_priority prio prio' g hg,
      filter_flatMap_of_priority prio prio' g hg, sortByPriority_filter]

end StableSort

/-- Sorting rules with one rule replaced, in place, by a block of rules of its priority gives
the sorted rules with that rule replaced by the block. -/
theorem sortByPriority_inline (pre post : List Rule) (c : Rule) (cs : List Rule)
    (hcs : ∀ r ∈ cs, r.priority = c.priority) :
    ∃ P Q, sortByPriority Rule.priority (pre ++ c :: post) = P ++ c :: Q ∧
      sortByPriority Rule.priority (pre ++ cs ++ post) = P ++ cs ++ Q := by
  -- the replaced rule stands as `none` among the others, which stand for themselves
  let key : Option Rule → Int := fun o => o.elim c.priority Rule.priority
  let block (b : List Rule) : Option Rule → List Rule := fun o => o.elim b fun r => [r]
  let xs : List (Option Rule) := pre.map some ++ none :: post.map some
  have hxs : ∀ b, xs.flatMap (block b) = pre ++ b ++ post := by
    intro b
    simp [xs, block, List.flatMap_append, List.flatMap_map]
  have hkey : ∀ b : List Rule, (∀ r ∈ b, r.priority = c.priority) →
      ∀ o, ∀ r ∈ block b o, r.priority = key o := by
    intro b hb o r hr
    cases o with
    | none => exact hb r hr
    | some q => simp_all [block, key]
  -- the sorted list has the one `none`, with only rules around it
  have hnone : none ∈ sortByPriority key xs := by simp [sortByPriority, xs]
  obtain ⟨ys₁, ys₂, hys⟩ := List.append_of_mem hnone
  have hcount : (sortByPriority key xs).countP Option.isNone = 1 := by
    rw [sortByPriority, (List.mergeSort_perm xs _).countP_eq]
    simp [xs, Function.comp_def]
  rw [hys, List.countP_append, List.countP_cons] at hcount
  have hsome : ∀ o ∈ ys₁ ++ ys₂, block [c] o = block cs o := by
    intro o ho
    cases o with
    | none =>
      simp only [Option.isNone_none, if_true] at hcount
      have h₁ : ys₁.countP Option.isNone = 0 := by omega
      have h₂ : ys₂.countP Option.isNone = 0 := by omega
      rw [List.countP_eq_zero] at h₁ h₂
      rcases List.mem_append.mp ho with ho | ho
      · exact absurd rfl (h₁ none ho)
      · exact absurd rfl (h₂ none ho)
    | some r => rfl
  refine ⟨ys₁.flatMap (block [c]), ys₂.flatMap (block [c]), ?_, ?_⟩
  · have h := hxs [c]
    rw [← List.singleton_append, ← List.append_assoc, ← h,
      sortByPriority_flatMap key Rule.priority (block [c]) (hkey [c] (by simp)), hys]
    simp [block]
  · rw [← hxs cs, sortByPriority_flatMap key Rule.priority (block cs) (hkey cs hcs), hys,
      List.flatMap_append, List.flatMap_cons,
      List.flatMap_congr fun o ho => hsome o (List.mem_append_left ys₂ ho),
      List.flatMap_congr fun o ho => hsome o (List.mem_append_right ys₁ ho), List.append_assoc]
    rfl

/-! ## The rules of a combined rule -/

/-- A typed rule leaves alone a statement it is not meant for. -/
theorem TypedRule.apply_of_rejects {r : TypedRule} {s : Statement} (h : r.accepts s = false) :
    r.apply s = pure (.ok s) := by
  simp [TypedRule.apply, h]

namespace Rule

/-- A typed rule run by the engine at a chosen priority. -/
def ofTypedAt (p : Int) (r : TypedRule) : Rule := ofTyped { r with chosenPriority := some p }

/-- The rules of a combined rule inlined: in the order it applies them, each at the combined
rule's priority. -/
def inlined (rules : List TypedRule) (priority : Option Int) : List Rule :=
  (combinedOrder rules).map (ofTypedAt (priority.getD basePriority))

theorem priority_inlined {rules : List TypedRule} {priority : Option Int} :
    ∀ r ∈ inlined rules priority, r.priority = (combined rules priority).priority := by
  intro r hr
  obtain ⟨q, -, rfl⟩ := List.mem_map.mp hr
  rfl

/-- What the typed rules of a group give, applied in turn, each to what the one before
left: the combined rule's application. -/
def applyEach (rs : List TypedRule) (s : Statement) : Except RuleFailure Statement :=
  (rs.foldlM (fun s (r : TypedRule) => (ExceptT.mk (r.apply s) : ExceptT RuleFailure Logged Statement))
    s).run.result

/-- A combined rule is not meant for a statement exactly when none of the rules it applies is. -/
theorem combined_rejects_iff {rules : List TypedRule} {priority : Option Int} {s : Statement} :
    (combined rules priority).accepts s = false ↔ ∀ q ∈ combinedOrder rules, q.accepts s = false := by
  have hmem : ∀ q, q ∈ combinedOrder rules ↔ q ∈ rules := fun q => (List.mergeSort_perm _ _).mem_iff
  simp [combined, hmem]

theorem combined_apply (rules : List TypedRule) (priority : Option Int) (s : Statement) :
    ((combined rules priority).apply s).result = applyEach (combinedOrder rules) s := rfl

theorem applyEach_cons (r : TypedRule) (rs : List TypedRule) (s : Statement) :
    applyEach (r :: rs) s = match (r.apply s).result with
      | .ok s' => applyEach rs s'
      | .error f => .error f := by
  simp only [applyEach, List.foldlM_cons, ExceptT.run_bind, ExceptT.run_mk, Logged.bind_result]
  cases (r.apply s).result <;> rfl

variable {p : Int}

/-- After a pass of some of the group's rules inlined, the group goes on from where the pass
ends. -/
theorem applyEach_append_of_passes {rs : List TypedRule} {s t : Statement} {names : List String}
    (h : Engine.Passes (rs.map (ofTypedAt p)) s t names) (rest : List TypedRule) :
    applyEach (rs ++ rest) s = applyEach rest t := by
  induction rs generalizing s names with
  | nil =>
    cases h
    rfl
  | cons r rs ih =>
    rw [List.map_cons] at h
    cases h with
    | skip ha hp =>
      have ha' : r.accepts s = false := ha
      rw [List.cons_append, applyEach_cons, TypedRule.apply_of_rejects ha']
      exact ih hp
    | apply _ hs hp =>
      rw [List.cons_append, applyEach_cons]
      change (r.apply s).result = _ at hs
      rw [hs]
      exact ih hp

/-- The group applied in turn gives what a pass of its rules inlined ends in. -/
theorem applyEach_of_passes {rs : List TypedRule} {s t : Statement} {names : List String}
    (h : Engine.Passes (rs.map (ofTypedAt p)) s t names) : applyEach rs s = .ok t := by
  have h' := applyEach_append_of_passes h []
  rw [List.append_nil] at h'
  rw [h']
  rfl

/-- The group applied in turn fails with the failure of the first of its rules to fail. -/
theorem applyEach_of_stop {pre post : List TypedRule} {r : TypedRule} {s t : Statement}
    {names : List String} {f : RuleFailure} (h : Engine.Passes (pre.map (ofTypedAt p)) s t names)
    (hf : (r.apply t).result = .error f) : applyEach (pre ++ r :: post) s = .error f := by
  rw [applyEach_append_of_passes h, applyEach_cons, hf]

/-- Inlined rules that apply none of themselves leave the statement, and none of them is
meant for it. -/
theorem rejects_of_passes_nil {rs : List TypedRule} {s t : Statement}
    (h : Engine.Passes (rs.map (ofTypedAt p)) s t []) : t = s ∧ ∀ r ∈ rs, r.accepts s = false := by
  induction rs with
  | nil =>
    cases h
    exact ⟨rfl, fun _ h => nomatch h⟩
  | cons r rs ih =>
    rw [List.map_cons] at h
    cases h with
    | skip ha hp =>
      obtain ⟨rfl, hrest⟩ := ih hp
      exact ⟨rfl, fun q hq => (List.mem_cons.mp hq).elim (fun h => h ▸ ha) (hrest q)⟩

/-- The rules a pass of inlined rules applies are some of them, in order. -/
theorem names_of_passes {rs : List TypedRule} {s t : Statement} {names : List String}
    (h : Engine.Passes (rs.map (ofTypedAt p)) s t names) :
    ∃ qs : List TypedRule, qs.Sublist rs ∧ names = qs.map (·.name) := by
  induction rs generalizing s names with
  | nil =>
    cases h
    exact ⟨[], List.Sublist.slnil, rfl⟩
  | cons r rs ih =>
    rw [List.map_cons] at h
    cases h with
    | skip _ hp =>
      obtain ⟨qs, hqs, rfl⟩ := ih hp
      exact ⟨qs, hqs.cons r, rfl⟩
    | apply _ _ hp =>
      obtain ⟨qs, hqs, rfl⟩ := ih hp
      exact ⟨r :: qs, hqs.cons_cons r, rfl⟩

end Rule

/-! ## The engine with the rules inlined -/

/-- Two failures that are the same but for the name of a rule that stopped abnormally. -/
def RewriteError.SameUpToRule (e e' : RewriteError) : Prop :=
  e = e' ∨ ∃ a b m, e = .rulePanicked a m ∧ e' = .rulePanicked b m

theorem RuleFailure.reported_sameUpToRule (f : RuleFailure) (a b : String) :
    (f.reported a).SameUpToRule (f.reported b) := by
  rcases f with e | _ | m
  · exact .inl rfl
  · exact .inr ⟨a, b, "unknown panic", rfl, rfl⟩
  · exact .inr ⟨a, b, m, rfl, rfl⟩

namespace Engine

theorem Passes.append {xs ys : List Rule} {s t u : Statement} {n₁ n₂ : List String}
    (h₁ : Passes xs s t n₁) (h₂ : Passes ys t u n₂) : Passes (xs ++ ys) s u (n₁ ++ n₂) := by
  induction h₁ with
  | nil => exact h₂
  | skip ha _ ih => exact .skip ha (ih h₂)
  | apply ha hs _ ih => exact .apply ha hs (ih h₂)

variable {rules : List TypedRule} {priority : Option Int}

/-- No rule of a combined rule that is not meant for a statement is meant for it. -/
theorem inlined_rejects {s : Statement} (h : (Rule.combined rules priority).accepts s = false) :
    ∀ r ∈ Rule.inlined rules priority, r.accepts s = false := by
  intro r hr
  obtain ⟨q, hq, rfl⟩ := List.mem_map.mp hr
  exact Rule.combined_rejects_iff.mp h q hq

/-- A pass of a combined rule's rules inlined is a pass of the combined rule, which is
listed once when any of them ran. -/
theorem Passes.combined_of_inlined {s t : Statement} {ns : List String}
    (h : Passes (Rule.inlined rules priority) s t ns) :
    Passes [Rule.combined rules priority] s t (if ns = [] then [] else ["CombinedRule"]) := by
  cases ha : (Rule.combined rules priority).accepts s with
  | false =>
    -- none of its rules is meant for the statement, so none runs
    obtain ⟨rfl, rfl⟩ := h.det (passes_of_rejects (inlined_rejects ha))
    exact .skip ha (.nil _)
  | true =>
    have hns : ns ≠ [] := by
      rintro rfl
      obtain ⟨-, hrej⟩ := Rule.rejects_of_passes_nil h
      have hrej' : (Rule.combined rules priority).accepts s = false :=
        Rule.combined_rejects_iff.mpr hrej
      rw [ha] at hrej'
      cases hrej'
    rw [if_neg hns]
    exact .apply ha (Rule.applyEach_of_passes h) (.nil t)

/-- The first of a combined rule's rules inlined to fail makes the combined rule fail, with
the same failure. -/
theorem combined_stops_of_inlined {spre spost : List Rule} {c : Rule} {s t : Statement}
    {ns : List String} {f : RuleFailure} (hsplit : Rule.inlined rules priority = spre ++ c :: spost)
    (hp : Passes spre s t ns) (hf : (c.apply t).result = .error f) :
    (Rule.combined rules priority).accepts s = true ∧
      ((Rule.combined rules priority).apply s).result = .error f := by
  obtain ⟨l₁, l₂, hl, rfl, hl₂⟩ := List.map_eq_append_iff.mp hsplit
  obtain ⟨q, l₃, rfl, rfl, rfl⟩ := List.map_eq_cons_iff.mp hl₂
  have happly : ((Rule.combined rules priority).apply s).result = .error f := by
    rw [Rule.combined_apply, hl]
    exact Rule.applyEach_of_stop hp hf
  refine ⟨?_, happly⟩
  -- a combined rule not meant for the statement would pass it untouched
  cases ha : (Rule.combined rules priority).accepts s with
  | true => rfl
  | false =>
    have hpass := Rule.applyEach_of_passes (passes_of_rejects (inlined_rejects ha))
    rw [Rule.combined_apply] at happly
    rw [happly] at hpass
    cases hpass

/-! ## Rewriting and running -/

/-- A rewrite that succeeds reports what `run` gives, also with no rules. -/
theorem run_of_rewrite_ok {e : Engine} {sql : String} {r : Report} (h : e.rewrite sql = .ok r) :
    e.run sql = r.rewritten := by
  by_cases hn : e.rules = []
  · -- with no rules the rewrite gives the text back
    rw [run_of_rules_nil hn]
    cases hparse : parseStatement e.dialect sql with
    | error err => rw [rewrite_of_parse_error hparse] at h; cases h
    | ok st =>
      have hp : Passes e.rules st st [] := hn ▸ .nil st
      rw [rewrite_of_passes hparse hp] at h
      cases h
      simp
  · rw [run_of_rules_ne_nil hn, h]

theorem run_of_rewrite_error {e : Engine} {sql : String} {err : RewriteError}
    (h : e.rewrite sql = .error err) : e.run sql = sql := by
  by_cases hn : e.rules = []
  · exact run_of_rules_nil hn sql
  · rw [run_of_rules_ne_nil hn, h]

/-- Two rewrites alike but for a combined rule of the rules `rules` standing for them: the
same text and change, and the rules applied the same but for the combined rule's name where
the other lists those of its rules that ran; or failures that are the same but for the name
of a rule that stopped abnormally. -/
def RewritesAlike (rules : List TypedRule) :
    Except RewriteError Report → Except RewriteError Report → Prop
  | .ok r, .ok r' => r.changed = r'.changed ∧ r.rewritten = r'.rewritten ∧
    ∃ A B, ∃ qs : List TypedRule, qs.Sublist (Rule.combinedOrder rules) ∧
      r'.applied = A ++ qs.map (·.name) ++ B ∧
      r.applied = A ++ (if qs = [] then [] else ["CombinedRule"]) ++ B
  | .error err, .error err' => err.SameUpToRule err'
  | _, _ => False

theorem run_eq_of_rewritesAlike {e e' : Engine} {sql : String}
    (h : RewritesAlike rules (e.rewrite sql) (e'.rewrite sql)) : e.run sql = e'.run sql := by
  revert h
  cases h₁ : e.rewrite sql <;> cases h₂ : e'.rewrite sql <;> intro h
  · rw [run_of_rewrite_error h₁, run_of_rewrite_error h₂]
  · cases h
  · cases h
  · obtain ⟨-, hrw, -⟩ := h
    rw [run_of_rewrite_ok h₁, run_of_rewrite_ok h₂, hrw]

section Inline

variable (d : Dialect) (P Q : List Rule) (sql : String)

/-- When the rules pass through the statement, the two engines report the same text and
change, the combined rule standing for those of its rules that ran. -/
theorem rewritesAlike_of_passes {st t₁ t₂ u : Statement} {n₁ ns n₃ : List String}
    (hparse : parseStatement d sql = .ok st) (hP : Passes P st t₁ n₁)
    (hI : Passes (Rule.inlined rules priority) t₁ t₂ ns) (hQ : Passes Q t₂ u n₃) :
    RewritesAlike rules (Engine.rewrite ⟨d, P ++ Rule.combined rules priority :: Q⟩ sql)
      (Engine.rewrite ⟨d, P ++ Rule.inlined rules priority ++ Q⟩ sql) := by
  have h₁ := @rewrite_of_passes ⟨d, P ++ Rule.combined rules priority :: Q⟩ sql _ _ _ hparse
    (hP.append (hI.combined_of_inlined.append hQ))
  have h₂ := @rewrite_of_passes ⟨d, P ++ Rule.inlined rules priority ++ Q⟩ sql _ _ _ hparse
    ((hP.append hI).append hQ)
  rw [h₁, h₂]
  obtain ⟨qs, hqs, rfl⟩ := Rule.names_of_passes hI
  refine ⟨rfl, rfl, n₁, n₃, qs, hqs, rfl, ?_⟩
  simp only [List.map_eq_nil_iff, List.append_assoc]

/-- The two engines rewrite every text alike. -/
theorem rewritesAlike_inline :
    RewritesAlike rules (Engine.rewrite ⟨d, P ++ Rule.combined rules priority :: Q⟩ sql)
      (Engine.rewrite ⟨d, P ++ Rule.inlined rules priority ++ Q⟩ sql) := by
  cases hparse : parseStatement d sql with
  | error err =>
    have h₁ : Engine.rewrite ⟨d, P ++ Rule.combined rules priority :: Q⟩ sql = .error err :=
      rewrite_of_parse_error hparse
    have h₂ : Engine.rewrite ⟨d, P ++ Rule.inlined rules priority ++ Q⟩ sql = .error err :=
      rewrite_of_parse_error hparse
    rw [h₁, h₂]
    exact .inl rfl
  | ok st =>
    rcases passes_or_stops P st with ⟨t₁, n₁, hP⟩ | ⟨ppre, r, ppost, t, names, f, rfl, hp, ha, hf⟩
    · rcases passes_or_stops (Rule.inlined rules priority) t₁ with
        ⟨t₂, ns, hI⟩ | ⟨spre, c, spost, t, ns, f, hsplit, hp, ha, hf⟩
      · rcases passes_or_stops Q t₂ with ⟨u, n₃, hQ⟩ | ⟨qpre, r, qpost, t, n₃, f, rfl, hq, ha, hf⟩
        · exact rewritesAlike_of_passes d P Q sql hparse hP hI hQ
        · -- a rule after the combined rule is the first to fail, in both
          have h₁ : Engine.rewrite ⟨d, P ++ Rule.combined rules priority :: (qpre ++ r :: qpost)⟩ sql =
              .error (f.reported r.name) :=
            rewrite_of_stop hparse
              (show _ = P ++ ([Rule.combined rules priority] ++ qpre) ++ r :: qpost by simp)
              (hP.append (hI.combined_of_inlined.append hq)) ha hf
          have h₂ : Engine.rewrite ⟨d, P ++ Rule.inlined rules priority ++ (qpre ++ r :: qpost)⟩ sql =
              .error (f.reported r.name) :=
            rewrite_of_stop hparse
              (show _ = P ++ Rule.inlined rules priority ++ qpre ++ r :: qpost by simp)
              ((hP.append hI).append hq) ha hf
          rw [h₁, h₂]
          exact .inl rfl
      · -- one of the combined rule's rules is the first to fail: the combined rule fails
        obtain ⟨hC, hCf⟩ := combined_stops_of_inlined hsplit hp hf
        have h₁ : Engine.rewrite ⟨d, P ++ Rule.combined rules priority :: Q⟩ sql =
            .error (f.reported (Rule.combined rules priority).name) :=
          rewrite_of_stop hparse (show _ = P ++ Rule.combined rules priority :: Q from rfl) hP hC hCf
        have h₂ : Engine.rewrite ⟨d, P ++ Rule.inlined rules priority ++ Q⟩ sql =
            .error (f.reported c.name) :=
          rewrite_of_stop hparse (show _ = P ++ spre ++ c :: (spost ++ Q) by rw [hsplit]; simp)
            (hP.append hp) ha hf
        rw [h₁, h₂]
        exact f.reported_sameUpToRule _ _
    · -- a rule before the combined rule is the first to fail, in both
      have h₁ : Engine.rewrite ⟨d, ppre ++ r :: ppost ++ Rule.combined rules priority :: Q⟩ sql =
          .error (f.reported r.name) :=
        rewrite_of_stop hparse (show _ = ppre ++ r :: (ppost ++ Rule.combined rules priority :: Q) by simp)
          hp ha hf
      have h₂ : Engine.rewrite ⟨d, ppre ++ r :: ppost ++ Rule.inlined rules priority ++ Q⟩ sql =
          .error (f.reported r.name) :=
        rewrite_of_stop hparse (show _ = ppre ++ r :: (ppost ++ Rule.inlined rules priority ++ Q) by simp)
          hp ha hf
      rw [h₁, h₂]
      exact .inl rfl

end Inline

/-- An engine with a combined rule rewrites and runs every text as the engine in which the
rule is replaced, in place, by its rules in the order it applies them, each at the combined
rule's priority. Both give the same text; a rewrite succeeds in one exactly when it does in
the other, with the same change and the same rules applied but for the combined rule's name
standing where the other lists those of its rules that ran; and a failure is the same failure
but for the name of a rule that stopped abnormally. -/
theorem combined_eq_inlined (d : Dialect) (pre post : List Rule) (rules : List TypedRule)
    (priority : Option Int) (sql : String) :
    let e := Engine.new d (pre ++ Rule.combined rules priority :: post)
    let e' := Engine.new d (pre ++ Rule.inlined rules priority ++ post)
    e.run sql = e'.run sql ∧ RewritesAlike rules (e.rewrite sql) (e'.rewrite sql) := by
  intro e e'
  -- sorting puts the inlined rules where the combined rule is
  obtain ⟨P, Q, hP, hQ⟩ := sortByPriority_inline pre post (Rule.combined rules priority)
    (Rule.inlined rules priority) Rule.priority_inlined
  have he : e = ⟨d, P ++ Rule.combined rules priority :: Q⟩ := by
    simp only [e, Engine.new, hP]
  have he' : e' = ⟨d, P ++ Rule.inlined rules priority ++ Q⟩ := by
    simp only [e', Engine.new, hQ]
  have h : RewritesAlike rules (e.rewrite sql) (e'.rewrite sql) := by
    rw [he, he']
    exact rewritesAlike_inline d P Q sql
  exact ⟨run_eq_of_rewritesAlike h, h⟩

end Engine

end SqlScope.Scope
