import SqlScope.Proofs.RowSemantics

/-!
# Scoping returns the filtered rows

A filter scopes a statement by adding its condition, qualified by the range variable
of each reference, in that reference's slot. On the fragment of `RowSemantics`, the
scoped statement returns exactly the rows the original returns when every table
reference the filter refers to reads only the rows the condition admits, provided
no join that keeps the unmatched rows of its right side (`RIGHT` and `FULL` joins)
receives a condition from either side:

- a condition placed in such a join's `ON` does not remove the rows of its right side,
  which the join keeps whether or not they match;
- a condition handed past such a join to an enclosing clause removes the rows the join
  filled with nulls on its left.

`SafeQuery` says that no such join receives one. The proof follows the
evaluator: a source's rows under the filter are its scoped rows on which the
conditions it hands on hold (`evalTwj_placed`), a join with an `ON` slot takes the
conditions of its right side into that clause, and a block's `WHERE` takes what its
`FROM` list hands on.

## Main statements

- `evalQuery_placed`: the scoped query returns the filtered rows.
- `scope_returns_filtered_rows`: the same for the statement a successful scoping gives.
-/

namespace SqlScope.Scope.Rows

open SqlScope.Sql SqlScope.Scope

variable {D : Domain}

/-! ## The condition at a range variable -/

/-- The names of the range variables of `b`, in order. -/
def names (b : Env D) : List Ident := b.map (·.name)

@[simp] theorem names_append (b₁ b₂ : Env D) : names (b₁ ++ b₂) = names b₁ ++ names b₂ :=
  List.map_append

/-- Whether the filter's condition holds of the row `q` names in `b`. -/
def holdsAt (f : Filter) (b : Env D) (q : Ident) : Bool :=
  truth (cmp3 D .eq (b.qualified q f.condition.column) (D.lit f.condition.value.toValue))

/-- Whether the condition holds at each of the range variables `qs`. -/
def passes (f : Filter) (qs : List Ident) (b : Env D) : Bool := qs.all (holdsAt f b)

@[simp] theorem passes_nil (f : Filter) (b : Env D) : passes f [] b = true := rfl

theorem passes_append (f : Filter) (qs qs' : List Ident) (b : Env D) :
    passes f (qs ++ qs') b = (passes f qs b && passes f qs' b) := List.all_append

theorem find?_append_of_mem {b₁ b₂ : Env D} {q : Ident} (h : q ∈ names b₁) :
    Env.find? (b₁ ++ b₂) q = Env.find? b₁ q := by
  obtain ⟨x, hx, rfl⟩ := List.mem_map.mp h
  have hs : (Env.find? b₁ x.name).isSome := List.find?_isSome.mpr ⟨x, hx, by simp⟩
  simp only [Env.find?, List.find?_append]
  rcases hf : List.find? (fun b : Binding D => decide (b.name = x.name)) b₁ with _ | y
  · simp [Env.find?, hf] at hs
  · rfl

theorem find?_append_of_not_mem {b₁ b₂ : Env D} {q : Ident} (h : q ∉ names b₁) :
    Env.find? (b₁ ++ b₂) q = Env.find? b₂ q := by
  have hn : Env.find? b₁ q = none :=
    List.find?_eq_none.mpr fun x hx hq => h (List.mem_map.mpr ⟨x, hx, by simpa using hq⟩)
  simp only [Env.find?, List.find?_append] at hn ⊢
  rw [hn, Option.none_or]

theorem passes_congr (f : Filter) {qs : List Ident} {b b' : Env D}
    (h : ∀ q ∈ qs, holdsAt f b q = holdsAt f b' q) : passes f qs b = passes f qs b' := by
  induction qs with
  | nil => rfl
  | cons q qs ih =>
    simp only [passes, List.all_cons] at ih ⊢
    rw [h q List.mem_cons_self, ih fun q' hq' => h q' (List.mem_cons_of_mem q hq')]

/-- The condition at a range variable of the first part reads that part. -/
theorem passes_append_left (f : Filter) {qs : List Ident} {b₁ b₂ : Env D}
    (h : qs ⊆ names b₁) : passes f qs (b₁ ++ b₂) = passes f qs b₁ :=
  passes_congr f fun q hq => by simp only [holdsAt, Env.qualified, find?_append_of_mem (h hq)]

/-- The condition at a range variable the first part does not bind reads the second. -/
theorem passes_append_right (f : Filter) {qs : List Ident} {b₁ b₂ : Env D}
    (h : ∀ q ∈ qs, q ∉ names b₁) : passes f qs (b₁ ++ b₂) = passes f qs b₂ :=
  passes_congr f fun q hq => by simp only [holdsAt, Env.qualified, find?_append_of_not_mem (h q hq)]

/-! ## Conditions added to a slot -/

section Slots

variable (db : Database D) (filt : Option Filter) (f : Filter)

/-- The predicate for a range variable holds where the condition holds of its row. -/
theorem truth_evalPred_predicate (q : Ident) (env : Env D) :
    truth (evalPred db filt (f.predicate q) env) = holdsAt f env q := rfl

/-- A slot with the predicates for `qs` added holds where it held and the condition
holds at each of `qs`. -/
theorem truth_addPredicates (w : Option Expr) (qs : List Ident) (env : Env D) :
    truth (evalOptPred db filt (Filter.addPredicates w (qs.map f.predicate)) env) =
      (truth (evalOptPred db filt w env) && passes f qs env) := by
  induction qs generalizing w with
  | nil => simp [Filter.addPredicates]
  | cons q qs ih =>
    have hstep : truth (evalOptPred db filt (addPredicate w (f.predicate q)) env) =
        (truth (evalOptPred db filt w env) && holdsAt f env q) := by
      cases w with
      | none =>
        simp only [addPredicate, conjoin, evalOptPred]
        rw [truth_evalPred_predicate]
        rfl
      | some e =>
        simp only [addPredicate, conjoin, evalOptPred, evalPred, truth_and3]
        rw [truth_evalPred_predicate]
    simp only [List.map_cons, Filter.addPredicates, List.foldl_cons] at ih ⊢
    rw [ih, hstep]
    simp only [passes, List.all_cons, Bool.and_assoc]

/-- The constraint of a join after the predicates for `qs` are added to its `ON`. -/
def onWith (c : JoinConstraint) (qs : List Ident) : JoinConstraint :=
  qs.foldl (fun c q => addOnPredicate c (f.predicate q)) c

theorem withOn_join (kind : JoinKind) (c : JoinConstraint) (qs : List Ident) :
    f.withOn (.join kind c) qs = .join kind (onWith f c qs) := by
  induction qs generalizing c with
  | nil => rfl
  | cons q qs ih => exact ih _

/-- An `ON` clause with the predicates for `qs` added holds where it held and the
condition holds at each of `qs`; a missing clause holds everywhere. -/
theorem truth_onWith (c : JoinConstraint) (hc : (∃ e, c = .on e) ∨ c = .none) (qs : List Ident)
    (env : Env D) :
    truth (evalConstraint db filt (onWith f c qs) env) =
      (truth (evalConstraint db filt c env) && passes f qs env) := by
  induction qs generalizing c with
  | nil => simp [onWith]
  | cons q qs ih =>
    have hstep : truth (evalConstraint db filt (addOnPredicate c (f.predicate q)) env) =
        (truth (evalConstraint db filt c env) && holdsAt f env q) := by
      rcases hc with ⟨e, rfl⟩ | rfl
      · simp only [addOnPredicate, conjoin, evalConstraint, evalPred, truth_and3]
        rw [truth_evalPred_predicate]
      · simp only [addOnPredicate, evalConstraint]
        rw [truth_evalPred_predicate]
        rfl
    simp only [onWith, List.foldl_cons] at ih ⊢
    rw [ih _ (by cases c <;> simp [addOnPredicate]), hstep]
    simp only [passes, List.all_cons, Bool.and_assoc]

end Slots

/-! ## Bags filtered before and after -/

/-- Filtering the rows a flat map starts from is mapping each row to its image or to
nothing. -/
theorem flatMap_filter_eq {α β : Type} {L : List α} {g g' : α → List β} {p : α → Bool}
    (h : ∀ a ∈ L, g' a = if p a then g a else []) : (L.filter p).flatMap g = L.flatMap g' := by
  induction L with
  | nil => rfl
  | cons a L ih =>
    rw [List.flatMap_cons, h a List.mem_cons_self, ← ih fun a' ha' => h a' (List.mem_cons_of_mem a ha')]
    by_cases hp : p a <;> simp [hp]

/-- A condition of the row a flat map starts from, read off every row it gives, can be
tested before or after. -/
theorem flatMap_filter_left {α β : Type} {L : List α} {g : α → List β} {p : α → Bool}
    {p' : β → Bool} (h : ∀ a ∈ L, ∀ b ∈ g a, p' b = p a) :
    (L.filter p).flatMap g = (L.flatMap g).filter p' := by
  rw [List.filter_flatMap]
  refine flatMap_filter_eq fun a ha => ?_
  by_cases hp : p a
  · rw [if_pos hp]
    exact List.filter_eq_self.mpr fun b hb => by rw [h a ha b hb, hp]
  · rw [if_neg hp]
    exact List.filter_eq_nil_iff.mpr fun b hb => by rw [h a ha b hb]; simpa using hp

/-- Filtering both factors of a product is filtering the product by both conditions. -/
theorem product_filter {L₁ L₂ : List (Env D)} {p₁ p₂ p : Env D → Bool}
    (h : ∀ b₁ ∈ L₁, ∀ b₂ ∈ L₂, p (b₁ ++ b₂) = (p₁ b₁ && p₂ b₂)) :
    (L₁.filter p₁).flatMap (fun b => (L₂.filter p₂).map (b ++ ·)) =
      (L₁.flatMap fun b => L₂.map (b ++ ·)).filter p := by
  rw [List.filter_flatMap]
  refine flatMap_filter_eq fun b₁ hb₁ => ?_
  rw [List.filter_map]
  by_cases hp : p₁ b₁
  · rw [if_pos hp]
    exact congrArg _ (List.filter_congr fun b₂ hb₂ => by simp [h b₁ hb₁ b₂ hb₂, hp])
  · rw [if_neg hp]
    simp only [List.map_eq_nil_iff, List.filter_eq_nil_iff, Function.comp_apply]
    intro b₂ hb₂
    simp [h b₁ hb₁ b₂ hb₂, hp]

/-! ## Joins -/

/-- Whether a join keeps the unmatched rows of its left side. -/
def keepsLeft : JoinKind → Bool
  | .left | .leftOuter | .fullOuter => true
  | _ => false

/-- Whether a join keeps the unmatched rows of its right side: a condition on either
side cannot move into or out of it. -/
def keepsRight : JoinKind → Bool
  | .right | .rightOuter | .fullOuter => true
  | _ => false

/-- A join of the fragment that keeps no unmatched right row gives, for each left row,
the rows that row gives. -/
theorem joinRows_eq_flatMap {kind : JoinKind} (hk : kind ∈ fragmentKinds)
    (hr : keepsRight kind = false) (cond : Env D → Option Bool) (lsh rsh : Shape)
    (L R : List (Env D)) :
    joinRows kind cond lsh rsh L R = L.flatMap (matchRow (keepsLeft kind) cond rsh R) := by
  simp only [fragmentKinds, List.mem_cons, List.not_mem_nil, or_false] at hk
  rcases hk with rfl | rfl | rfl | rfl | rfl | rfl | rfl | rfl | rfl <;>
    first | rfl | exact absurd hr (by decide)

/-- Every row a left row gives starts with that row. -/
theorem matchRow_prefix {keep : Bool} {cond : Env D → Option Bool} {rsh : Shape}
    {R : List (Env D)} {l b : Env D} (hb : b ∈ matchRow keep cond rsh R l) : ∃ x, b = l ++ x := by
  simp only [matchRow] at hb
  split at hb
  · exact ⟨nulls rsh, List.mem_singleton.mp hb⟩
  · obtain ⟨r, _, rfl⟩ := List.mem_map.mp hb
    exact ⟨r, rfl⟩

/-- A condition on the right rows can join the `ON` clause. -/
theorem matchRow_on {keep : Bool} {cond cond' : Env D → Option Bool} {rsh : Shape}
    {R : List (Env D)} {l : Env D} {p : Env D → Bool}
    (h : ∀ r ∈ R, truth (cond' (l ++ r)) = (truth (cond (l ++ r)) && p r)) :
    matchRow keep cond' rsh R l = matchRow keep cond rsh (R.filter p) l := by
  have hm : R.filter (fun r => truth (cond' (l ++ r))) =
      (R.filter p).filter fun r => truth (cond (l ++ r)) := by
    rw [List.filter_filter]
    exact List.filter_congr fun r hr => h r hr
  simp only [matchRow, hm]

/-- Without kept left rows, a condition on the right rows can be tested after the join. -/
theorem matchRow_filter_right {cond : Env D → Option Bool} {rsh : Shape} {R : List (Env D)}
    {l : Env D} {p p' : Env D → Bool} (h : ∀ r ∈ R, p' (l ++ r) = p r) :
    matchRow false cond rsh (R.filter p) l = (matchRow false cond rsh R l).filter p' := by
  simp only [matchRow, Bool.false_and, Bool.false_eq_true, if_false, List.filter_map]
  rw [List.filter_filter, List.filter_filter]
  exact congrArg _ (List.filter_congr fun r hr => by simp [h r hr, Bool.and_comm])

/-- Flat maps agree when their functions agree on the rows they start from. -/
theorem flatMap_congr_mem {α β : Type} {L : List α} {g g' : α → List β}
    (h : ∀ a ∈ L, g a = g' a) : L.flatMap g = L.flatMap g' := by
  induction L with
  | nil => rfl
  | cons a L ih =>
    rw [List.flatMap_cons, List.flatMap_cons, h a List.mem_cons_self,
      ih fun a' ha' => h a' (List.mem_cons_of_mem a ha')]

/-! ## The range variables of evaluated rows -/

@[simp] theorem names_nulls (sh : Shape) : names (nulls sh : Env D) = sh.map Prod.fst := by
  simp only [names, nulls, List.map_map]
  rfl

/-- A joined row binds the range variables of the left side, then those of the right. -/
theorem names_of_mem_matchRow {keep : Bool} {cond : Env D → Option Bool} {rsh : Shape}
    {R : List (Env D)} {l b : Env D} (hR : ∀ r ∈ R, names r = rsh.map Prod.fst)
    (hb : b ∈ matchRow keep cond rsh R l) : names b = names l ++ rsh.map Prod.fst := by
  simp only [matchRow] at hb
  split at hb
  · rw [List.mem_singleton.mp hb, names_append, names_nulls]
  · obtain ⟨r, hr, rfl⟩ := List.mem_map.mp hb
    rw [names_append, hR r (List.mem_filter.mp hr).1]

theorem names_of_mem_joinRows {kind : JoinKind} {cond : Env D → Option Bool} {lsh rsh : Shape}
    {L R : List (Env D)} (hL : ∀ l ∈ L, names l = lsh.map Prod.fst)
    (hR : ∀ r ∈ R, names r = rsh.map Prod.fst) {b : Env D}
    (hb : b ∈ joinRows kind cond lsh rsh L R) :
    names b = lsh.map Prod.fst ++ rsh.map Prod.fst := by
  have hm : ∀ keep, ∀ b ∈ L.flatMap (matchRow keep cond rsh R),
      names b = lsh.map Prod.fst ++ rsh.map Prod.fst := fun keep b hb => by
    obtain ⟨l, hl, hb⟩ := List.mem_flatMap.mp hb
    rw [names_of_mem_matchRow hR hb, hL l hl]
  have hu : ∀ b ∈ (R.filter fun r => L.all fun l => !truth (cond (l ++ r))).map (nulls lsh ++ ·),
      names b = lsh.map Prod.fst ++ rsh.map Prod.fst := fun b hb => by
    obtain ⟨r, hr, rfl⟩ := List.mem_map.mp hb
    rw [names_append, names_nulls, hR r (List.mem_filter.mp hr).1]
  unfold joinRows at hb
  cases kind <;>
    first
    | exact hm _ b hb
    | exact (List.mem_append.mp hb).elim (hm _ b) (hu b)
    | exact absurd hb List.not_mem_nil

section Shapes

variable (db : Database D)

mutual

theorem names_shapeTwj : (t : TableWithJoins) → (shapeTwj db t).map Prod.fst = namesTwj t
  | .mk rel js => by
    rw [shapeTwj, namesTwj, List.map_append, names_shapeFactor rel, names_shapeJoins js]

theorem names_shapeJoins : (js : List Join) → (shapeJoins db js).map Prod.fst = namesJoins js
  | [] => rfl
  | .mk rel _ :: js => by
    rw [shapeJoins, namesJoins, List.map_append, names_shapeFactor rel, names_shapeJoins js]

theorem names_shapeFactor : (rel : TableFactor) → (shapeFactor db rel).map Prod.fst = namesFactor rel
  | .table .. => rfl
  | .nested t _ => names_shapeTwj t
  | .derived .. | .unnest .. | .function .. | .tableFunction .. | .columnsFunction ..
  | .pivot .. | .unpivot .. => rfl

end

end Shapes

section Rows

variable (db : Database D) (filt : Option Filter)

mutual

/-- Every row of a source binds the range variables of the source, in order. -/
theorem names_evalTwj : (t : TableWithJoins) → (env b : Env D) → b ∈ evalTwj db filt t env →
    names b = namesTwj t
  | .mk rel js, env, b, hb => by
    have hn := names_evalJoins js (shapeFactor db rel) (evalFactor db filt rel env) env
      (fun a ha => by rw [names_evalFactor rel env a ha, names_shapeFactor]) b hb
    rwa [names_shapeFactor] at hn

theorem names_evalJoins : (js : List Join) → (sh : Shape) → (A : List (Env D)) → (env : Env D) →
    (∀ a ∈ A, names a = sh.map Prod.fst) →
    ∀ b ∈ evalJoins db filt js sh A env, names b = sh.map Prod.fst ++ namesJoins js
  | [], _, _, _, hA, b, hb => by rw [namesJoins, List.append_nil]; exact hA b hb
  | .mk rel (.join kind c) :: js, sh, A, env, hA, b, hb => by
    have hj : ∀ a ∈ joinRows kind (fun b => evalConstraint db filt c (b ++ env)) sh
        (shapeFactor db rel) A (evalFactor db filt rel env),
        names a = (sh ++ shapeFactor db rel).map Prod.fst := fun a ha => by
      rw [List.map_append]
      exact names_of_mem_joinRows hA (fun r hr => by rw [names_evalFactor rel env r hr,
        names_shapeFactor]) ha
    rw [names_evalJoins js _ _ env hj b hb, namesJoins, List.map_append, names_shapeFactor,
      List.append_assoc]
  | .mk _ .crossApply :: _, _, _, _, _, _, hb | .mk _ .outerApply :: _, _, _, _, _, _, hb
  | .mk _ (.asOf ..) :: _, _, _, _, _, _, hb => absurd hb List.not_mem_nil

theorem names_evalFactor : (rel : TableFactor) → (env b : Env D) → b ∈ evalFactor db filt rel env →
    names b = namesFactor rel
  | .table .., _, b, hb => by
    obtain ⟨r, _, rfl⟩ := List.mem_map.mp hb
    rfl
  | .nested t _, env, b, hb => names_evalTwj t env b hb
  | .derived .., _, _, hb | .unnest .., _, _, hb | .function .., _, _, hb
  | .tableFunction .., _, _, hb | .columnsFunction .., _, _, hb | .pivot .., _, _, hb
  | .unpivot .., _, _, hb => absurd hb List.not_mem_nil

end

/-- Every row of a `FROM` list binds the range variables of its sources, in order. -/
theorem names_evalFrom : (ts : List TableWithJoins) → (env b : Env D) →
    b ∈ evalFrom db filt ts env → names b = namesFrom ts
  | [], _, b, hb => by rw [List.mem_singleton.mp hb]; rfl
  | t :: ts, env, b, hb => by
    obtain ⟨b₁, h₁, hb⟩ := List.mem_flatMap.mp hb
    obtain ⟨b₂, h₂, rfl⟩ := List.mem_map.mp hb
    rw [names_append, names_evalTwj db filt t env b₁ h₁, names_evalFrom ts env b₂ h₂]
    rfl

end Rows

/-! ## Scoping keeps the sources -/

section Placed

variable (f : Filter)

mutual

theorem shapeTwj_placed (db : Database D) : (t : TableWithJoins) →
    shapeTwj db (f.placedTwj t) = shapeTwj db t
  | .mk rel js => by
    show shapeFactor db (f.placedFactor rel) ++ shapeJoins db (f.placedJoins js) = _
    rw [shapeFactor_placed db rel, shapeJoins_placed db js]; rfl

theorem shapeJoins_placed (db : Database D) : (js : List Join) →
    shapeJoins db (f.placedJoins js) = shapeJoins db js
  | [] => rfl
  | .mk rel _ :: js => by
    show shapeFactor db (f.placedFactor rel) ++ shapeJoins db (f.placedJoins js) = _
    rw [shapeFactor_placed db rel, shapeJoins_placed db js]; rfl

theorem shapeFactor_placed (db : Database D) : (rel : TableFactor) →
    shapeFactor db (f.placedFactor rel) = shapeFactor db rel
  | .nested t _ => shapeTwj_placed db t
  | .table .. | .derived .. | .unnest .. | .function .. | .tableFunction ..
  | .columnsFunction .. | .pivot .. | .unpivot .. => rfl

end

mutual

theorem namesTwj_placed : (t : TableWithJoins) → namesTwj (f.placedTwj t) = namesTwj t
  | .mk rel js => by
    show namesFactor (f.placedFactor rel) ++ namesJoins (f.placedJoins js) = _
    rw [namesFactor_placed rel, namesJoins_placed js]; rfl

theorem namesJoins_placed : (js : List Join) → namesJoins (f.placedJoins js) = namesJoins js
  | [] => rfl
  | .mk rel _ :: js => by
    show namesFactor (f.placedFactor rel) ++ namesJoins (f.placedJoins js) = _
    rw [namesFactor_placed rel, namesJoins_placed js]; rfl

theorem namesFactor_placed : (rel : TableFactor) → namesFactor (f.placedFactor rel) = namesFactor rel
  | .nested t _ => namesTwj_placed t
  | .table .. | .derived .. | .unnest .. | .function .. | .tableFunction ..
  | .columnsFunction .. | .pivot .. | .unpivot .. => rfl

end

theorem namesFrom_placed (ts : List TableWithJoins) : namesFrom (f.placedFrom ts) = namesFrom ts := by
  induction ts with
  | nil => rfl
  | cons t ts ih =>
    show namesTwj (f.placedTwj t) ++ namesFrom (f.placedFrom ts) = _
    rw [namesTwj_placed f t, ih]; rfl

mutual

/-- What a source hands on are some of its range variables, in order. -/
theorem exposedTwj_sublist : (t : TableWithJoins) → (f.exposedTwj t).Sublist (namesTwj t)
  | .mk rel js => (exposedFactor_sublist rel).append (exposedJoins_sublist js)

theorem exposedJoins_sublist : (js : List Join) → (f.exposedJoins js).Sublist (namesJoins js)
  | [] => List.Sublist.slnil
  | .mk rel op :: js => by
    refine List.Sublist.append ?_ (exposedJoins_sublist js)
    split
    · exact exposedFactor_sublist rel
    · exact List.nil_sublist _

theorem exposedFactor_sublist : (rel : TableFactor) → (f.exposedFactor rel).Sublist (namesFactor rel)
  | .table name _ _ aliasName .. => by
    show List.Sublist (if _ then _ else _) [rangeName name aliasName]
    split
    · cases hq : qualifier name aliasName with
      | none => exact List.nil_sublist _
      | some q => simp [rangeName, hq]
    · exact List.nil_sublist _
  | .nested t _ => exposedTwj_sublist t
  | .derived .. | .unnest .. | .function .. | .tableFunction ..
  | .columnsFunction .. | .pivot .. | .unpivot .. => List.nil_sublist _

end

theorem exposedFrom_sublist (ts : List TableWithJoins) : (f.exposedFrom ts).Sublist (namesFrom ts) := by
  induction ts with
  | nil => exact List.Sublist.slnil
  | cons t ts ih => exact (exposedTwj_sublist f t).append ih

end Placed

/-! ## Conditions that read no table -/

/-- A scalar has no query in it: scoping leaves it as it is. -/
theorem placedExpr_scalar (f : Filter) : (e : Expr) → IsScalar e → f.placedExpr e = e
  | e, h => by
    cases e with
    | nested e => exact congrArg Expr.nested (placedExpr_scalar f e h)
    | compound _ | ident _ | value _ => rfl
    | _ => exact (h : False).elim

section Plain

variable (db : Database D) (filt filt' : Option Filter)

/-- A condition that reads no table does not see how the tables are read. -/
theorem evalPred_plain : (e : Expr) → PlainPred e → (env : Env D) →
    evalPred db filt e env = evalPred db filt' e env
  | e, h, env => by
    cases e with
    | binary l op r =>
      cases op with
      | and =>
        show and3 _ _ = and3 _ _
        rw [evalPred_plain l h.1 env, evalPred_plain r h.2 env]
      | or =>
        show or3 _ _ = or3 _ _
        rw [evalPred_plain l h.1 env, evalPred_plain r h.2 env]
      | _ => rfl
    | unary op e =>
      cases op with
      | not => exact congrArg not3 (evalPred_plain e h env)
      | _ => rfl
    | nested e => exact evalPred_plain e h env
    | value v => cases v <;> rfl
    | inSubquery _ _ _ | «exists» _ _ => exact (h : False).elim
    | _ => rfl

theorem evalConstraint_plain {c : JoinConstraint} (hc : FragConstraint c) (env : Env D) :
    evalConstraint db filt c env = evalConstraint db filt' c env := by
  cases c with
  | on e => exact evalPred_plain db filt filt' e hc env
  | none => rfl
  | _ => exact (hc : False).elim

end Plain

/-- A join of the fragment takes a condition in its `ON` slot, or, for an inner join
without `ON`, hands it to the enclosing clause. -/
theorem joinSite_of_frag {kind : JoinKind} {c : JoinConstraint} (hc : FragConstraint c) :
    joinSite (.join kind c) = .on ∨
      (joinSite (.join kind c) = .enclosing ∧ c = .none ∧ isInnerJoin kind = true) := by
  cases c with
  | on e => left; simp only [joinSite]; split <;> rfl
  | none =>
    cases hi : isInnerJoin kind
    · left; simp [joinSite, hi]
    · right; simp [joinSite, hi]
  | _ => exact (hc : False).elim

/-- An inner join gives, for each left row, the right rows it matches. -/
theorem joinRows_inner {kind : JoinKind} (hi : isInnerJoin kind = true)
    (cond : Env D → Option Bool) (lsh rsh : Shape) (L R : List (Env D)) :
    joinRows kind cond lsh rsh L R = L.flatMap (matchRow false cond rsh R) := by
  cases kind <;> first | rfl | exact absurd hi (by decide)

theorem on_or_none_of_frag {c : JoinConstraint} (hc : FragConstraint c) :
    (∃ e, c = .on e) ∨ c = .none := by
  cases c with
  | on e => exact .inl ⟨e, rfl⟩
  | none => exact .inr rfl
  | _ => exact (hc : False).elim

/-- One join of the fragment, with the rows `L` on its left, on which the conditions
for `X` are owed, and the rows `R` on its right, on which those for `Y` are. Scoped,
the join takes the conditions for `Y` into its `ON` when it has that slot and hands
them on otherwise; either way it returns the join of the filtered sides once what it
hands on is tested. -/
theorem joinRows_placed (db : Database D) (f : Filter) {kind : JoinKind} {c : JoinConstraint}
    (hk : kind ∈ fragmentKinds) (hc : FragConstraint c) {X Y : List Ident}
    (hsafe : keepsRight kind = true → X = [] ∧ Y = []) {sh rsh : Shape} {L R : List (Env D)}
    (env : Env D) (hL : ∀ l ∈ L, names l = sh.map Prod.fst)
    (hX : X ⊆ sh.map Prod.fst) (hY : Y ⊆ rsh.map Prod.fst)
    (hR : ∀ r ∈ R, names r = rsh.map Prod.fst) (hd : ∀ q ∈ Y, q ∉ sh.map Prod.fst) :
    joinRows kind (fun b => evalConstraint db (some f) c (b ++ env)) sh rsh
        (L.filter (passes f X)) (R.filter (passes f Y)) =
      (joinRows kind (fun b => evalConstraint db none
          (if joinSite (.join kind c) = .on then onWith f c Y else c) (b ++ env)) sh rsh L R).filter
        (passes f (X ++ if joinSite (.join kind c) = .enclosing then Y else [])) := by
  -- the `ON` clause reads no table, so the filter does not change it
  have hcond : (fun b => evalConstraint db (some f) c (b ++ env)) =
      fun b => evalConstraint db none c (b ++ env) :=
    funext fun b => evalConstraint_plain db _ _ hc (b ++ env)
  -- the conditions for `X` read the left row of a joined row, those for `Y` the right one
  have hleft : ∀ l ∈ L, ∀ x : Env D, passes f X (l ++ x) = passes f X l := fun l hl _ =>
    passes_append_left f (by rw [hL l hl]; exact hX)
  have hright : ∀ l ∈ L, ∀ r : Env D, passes f Y (l ++ r) = passes f Y r := fun l hl _ =>
    passes_append_right f fun q hq => by rw [hL l hl]; exact hd q hq
  have hmatch : ∀ {keep : Bool} {cond : Env D → Option Bool} {R' : List (Env D)},
      ∀ l ∈ L, ∀ b ∈ matchRow keep cond rsh R' l, passes f X b = passes f X l := by
    intro _ _ _ l hl b hb
    obtain ⟨x, rfl⟩ := matchRow_prefix hb
    exact hleft l hl x
  rw [hcond]
  rcases @joinSite_of_frag kind c hc with hs | ⟨hs, rfl, hi⟩
  · have hne : joinSite (.join kind c) ≠ .enclosing := by rw [hs]; decide
    rw [if_pos hs, if_neg hne, List.append_nil]
    cases hr : keepsRight kind with
    | false =>
      -- the right rows' conditions join the `ON`, the left rows' are tested after
      rw [joinRows_eq_flatMap hk hr, joinRows_eq_flatMap hk hr, ← flatMap_filter_left hmatch]
      refine flatMap_congr_mem fun l hl => (matchRow_on fun r hr => ?_).symm
      have hl : l ∈ L := (List.mem_filter.mp hl).1
      have hYlr : Y ⊆ names (l ++ r) := by
        rw [names_append, hR r hr]
        exact List.subset_append_of_subset_right _ hY
      rw [truth_onWith db none f c (on_or_none_of_frag hc), passes_append_left f hYlr, hright l hl r]
    | true =>
      -- a join that keeps its right side receives nothing
      obtain ⟨rfl, rfl⟩ := hsafe hr
      have h0 : ∀ M : List (Env D), M.filter (passes f []) = M := fun M =>
        List.filter_eq_self.mpr fun _ _ => rfl
      rw [h0, h0, h0]
      rfl
  · -- an inner join without `ON` hands both sides' conditions on
    have hne : joinSite (.join kind .none) ≠ .on := by rw [hs]; decide
    rw [if_neg hne, if_pos hs, joinRows_inner hi, joinRows_inner hi]
    let cond : Env D → Option Bool := fun b => evalConstraint db none .none (b ++ env)
    calc (L.filter (passes f X)).flatMap (matchRow false cond rsh (R.filter (passes f Y)))
        _ = (L.filter (passes f X)).flatMap
              (fun l => (matchRow false cond rsh R l).filter (passes f Y)) :=
          flatMap_congr_mem fun l hl =>
            matchRow_filter_right fun r _ => hright l (List.mem_filter.mp hl).1 r
        _ = (L.flatMap fun l => (matchRow false cond rsh R l).filter (passes f Y)).filter
              (passes f X) :=
          flatMap_filter_left fun l hl b hb => hmatch l hl b (List.mem_filter.mp hb).1
        _ = ((L.flatMap (matchRow false cond rsh R)).filter (passes f Y)).filter (passes f X) :=
          congrArg (List.filter (passes f X)) List.filter_flatMap.symm
        _ = _ := by
          rw [List.filter_filter]
          exact List.filter_congr fun b _ => by rw [passes_append, Bool.and_comm]

/-! ## Joins that receive no condition -/

mutual

/-- No join of the query that keeps the unmatched rows of its right side receives a
condition: none is handed to it from its left, and its right side hands none on. -/
def SafeQuery (f : Filter) : Query → Prop
  | .mk _ _ body .. => SafeSetExpr f body

def SafeSetExpr (f : Filter) : SetExpr → Prop
  | .select s => SafeSelect f s
  | _ => True

def SafeSelect (f : Filter) : Select → Prop
  | .mk _ _ _ _ from_ w .. => SafeFrom f from_ ∧ SafeOptPred f w

def SafeFrom (f : Filter) : List TableWithJoins → Prop
  | [] => True
  | t :: ts => SafeTwj f t ∧ SafeFrom f ts

def SafeTwj (f : Filter) : TableWithJoins → Prop
  | .mk rel js => SafeFactor f rel ∧ SafeJoins f (f.exposedFactor rel) js

/-- The joins of a source are safe when the range variables `handed` on from the
sources before them are. -/
def SafeJoins (f : Filter) (handed : List Ident) : List Join → Prop
  | [] => True
  | .mk rel (.join kind c) :: js =>
    SafeFactor f rel ∧ (keepsRight kind = true → handed = [] ∧ f.exposedFactor rel = []) ∧
      SafeJoins f (handed ++ if joinSite (.join kind c) = .enclosing then f.exposedFactor rel else []) js
  | .mk rel _ :: js => SafeFactor f rel ∧ SafeJoins f handed js

def SafeFactor (f : Filter) : TableFactor → Prop
  | .nested t _ => SafeTwj f t
  | _ => True

def SafeOptPred (f : Filter) : Option Expr → Prop
  | none => True
  | some e => SafePred f e

def SafePred (f : Filter) : Expr → Prop
  | .binary l _ r => SafePred f l ∧ SafePred f r
  | .unary _ e => SafePred f e
  | .nested e => SafePred f e
  | .exists _ q => SafeQuery f q
  | .inSubquery _ _ q => SafeQuery f q
  | _ => True

end

/-! ## One step of each walk -/

theorem evalJoins_cons_join (db : Database D) (filt : Option Filter) (rel : TableFactor)
    (kind : JoinKind) (c : JoinConstraint) (js : List Join) (sh : Shape) (A : List (Env D))
    (env : Env D) :
    evalJoins db filt (.mk rel (.join kind c) :: js) sh A env =
      evalJoins db filt js (sh ++ shapeFactor db rel)
        (joinRows kind (fun b => evalConstraint db filt c (b ++ env)) sh (shapeFactor db rel) A
          (evalFactor db filt rel env)) env := rfl

theorem exposedJoins_cons (f : Filter) (rel : TableFactor) (op : JoinOperator) (js : List Join) :
    f.exposedJoins (.mk rel op :: js) =
      (if joinSite op = .enclosing then f.exposedFactor rel else []) ++ f.exposedJoins js := rfl

/-- A scoped join of the fragment is a join of the same kind, with the conditions for
its right side in its `ON` when it has that slot. -/
theorem placedJoins_cons_join (f : Filter) (rel : TableFactor) (kind : JoinKind)
    (c : JoinConstraint) (js : List Join) :
    f.placedJoins (.mk rel (.join kind c) :: js) =
      .mk (f.placedFactor rel) (.join kind (if joinSite (.join kind c) = .on then
        onWith f c (f.exposedFactor rel) else c)) :: f.placedJoins js := by
  show Join.mk (f.placedFactor rel) (if joinSite (.join kind c) = .on then
    f.withOn (.join kind c) (f.exposedFactor rel) else .join kind c) :: f.placedJoins js = _
  by_cases h : joinSite (.join kind c) = .on
  · rw [if_pos h, if_pos h, withOn_join]
  · rw [if_neg h, if_neg h]

/-- Scoping leaves a query's projection as it is. -/
theorem firstItem_placed (f : Filter) (q : Query) : firstItem (f.placedQuery q) = firstItem q := by
  obtain ⟨_, _, body, _, _, _, _, _⟩ := q
  cases body with
  | select s =>
    obtain ⟨_, _, _, items, _, _, _, _, _, _, _, _, _, _⟩ := s
    rcases items with _ | ⟨i, _⟩
    · rfl
    · cases i <;> rfl
  | _ => rfl

theorem qualifier_eq_some {name : Name} (h : name.parts ≠ []) (aliasName : Option TableAlias) :
    qualifier name aliasName = some (rangeName name aliasName) := by
  cases aliasName with
  | some a => rfl
  | none =>
    obtain ⟨q, hq⟩ := Option.isSome_iff_exists.mp (List.getLast?_isSome.mpr h)
    simp [rangeName, qualifier, hq]

/-- A table the filter refers to reads the rows the condition admits: the rows of the
unfiltered table on which the condition holds at its range variable. -/
theorem evalFactor_table_placed (db : Database D) (f : Filter) {name : Name}
    (hname : name.parts ≠ []) (aliasName : Option TableAlias) :
    (scan db (some f) name aliasName).map (fun r => [(⟨rangeName name aliasName, db.columns name, some r⟩ : Binding D)]) =
      ((scan db none name aliasName).map fun r => [(⟨rangeName name aliasName, db.columns name, some r⟩ : Binding D)]).filter
        (passes f (if f.target.refersTo name (aliasName.map (·.name)) then
          (qualifier name aliasName).toList else [])) := by
  by_cases hm : f.target.refersTo name (aliasName.map (·.name))
  · rw [if_pos hm, qualifier_eq_some hname, List.filter_map]
    simp only [scan, if_pos hm]
    congr 1
    exact List.filter_congr fun r _ => by
      simp [passes, holdsAt, admits, Env.qualified, Env.find?]
  · rw [if_neg hm, List.filter_eq_self.mpr fun _ _ => passes_nil f _]
    simp only [scan, if_neg hm]

/-! ## The scoped query returns the filtered rows -/

section Main

variable (db : Database D) (f : Filter)

mutual

/-- On the fragment, a scoped query returns the rows the query returns when each
table the filter refers to reads only the rows the condition admits. -/
theorem evalQuery_placed : (q : Query) → FragQuery q → SafeQuery f q → (env : Env D) →
    evalQuery db none (f.placedQuery q) env = evalQuery db (some f) q env
  | .mk _ _ body .., ⟨_, _, _, hb⟩, hs, env => evalSetExpr_placed body hb hs env

theorem evalSetExpr_placed : (e : SetExpr) → FragSetExpr e → SafeSetExpr f e → (env : Env D) →
    evalSetExpr db none (f.placedSetExpr e) env = evalSetExpr db (some f) e env
  | e, hf, hs, env => by
    cases e with
    | select s => exact evalSelect_placed s hf hs env
    | _ => exact (hf : False).elim

/-- A block's `WHERE` tests what its `FROM` list hands on. -/
theorem evalSelect_placed : (s : Select) → FragSelect s → SafeSelect f s → (env : Env D) →
    evalSelect db none (f.placedSelect s) env = evalSelect db (some f) s env
  | .mk _ _ _ _ from_ w .., ⟨_, _, _, _, hn, hfrom, hw⟩, ⟨hsf, hsw⟩, env => by
    show List.filter _ (evalFrom db none (f.placedFrom from_) env) =
      List.filter _ (evalFrom db (some f) from_ env)
    rw [evalFrom_placed from_ hfrom hsf hn env, List.filter_filter]
    refine List.filter_congr fun b hb => ?_
    have hX : f.exposedFrom from_ ⊆ names b := by
      rw [names_evalFrom db none _ env b hb, namesFrom_placed]
      exact (exposedFrom_sublist f from_).subset
    rw [truth_addPredicates, evalOptPred_placed w hw hsw (b ++ env), passes_append_left f hX,
      Bool.and_comm]

/-- A `FROM` list's rows are its scoped rows on which what it hands on holds. -/
theorem evalFrom_placed : (ts : List TableWithJoins) → FragFrom ts → SafeFrom f ts →
    (namesFrom ts).Nodup → (env : Env D) →
    evalFrom db (some f) ts env =
      (evalFrom db none (f.placedFrom ts) env).filter (passes f (f.exposedFrom ts))
  | [], _, _, _, _ => (List.filter_eq_self.mpr fun _ _ => passes_nil f _).symm
  | t :: ts, ⟨ht, hts⟩, ⟨hst, hsts⟩, hn, env => by
    obtain ⟨hnt, hnts, hdis⟩ := List.nodup_append.mp hn
    show List.flatMap _ (evalTwj db (some f) t env) =
      List.filter (passes f (f.exposedTwj t ++ f.exposedFrom ts)) (List.flatMap _ _)
    rw [evalTwj_placed t ht hst hnt env, evalFrom_placed ts hts hsts hnts env]
    refine product_filter fun b₁ h₁ b₂ h₂ => ?_
    have hn₁ : names b₁ = namesTwj t := by
      rw [names_evalTwj db none _ env b₁ h₁, namesTwj_placed]
    have hn₂ : names b₂ = namesFrom ts := by
      rw [names_evalFrom db none _ env b₂ h₂, namesFrom_placed]
    have hX : f.exposedTwj t ⊆ names b₁ := hn₁ ▸ (exposedTwj_sublist f t).subset
    have hY : ∀ q ∈ f.exposedFrom ts, q ∉ names b₁ := fun q hq hq₁ =>
      hdis q (hn₁ ▸ hq₁) q ((exposedFrom_sublist f ts).subset hq) rfl
    rw [passes_append, passes_append_left f hX, passes_append_right f hY]

/-- A source's rows are its scoped rows on which what it hands on holds. -/
theorem evalTwj_placed : (t : TableWithJoins) → FragTwj t → SafeTwj f t → (namesTwj t).Nodup →
    (env : Env D) →
    evalTwj db (some f) t env =
      (evalTwj db none (f.placedTwj t) env).filter (passes f (f.exposedTwj t))
  | .mk rel js, ⟨hrel, hjs⟩, ⟨hsrel, hsjs⟩, hn, env => by
    show evalJoins db (some f) js (shapeFactor db rel) (evalFactor db (some f) rel env) env =
      List.filter (passes f (f.exposedFactor rel ++ f.exposedJoins js))
        (evalJoins db none (f.placedJoins js) (shapeFactor db (f.placedFactor rel))
          (evalFactor db none (f.placedFactor rel) env) env)
    rw [evalFactor_placed rel hrel hsrel (List.nodup_append.mp hn).1 env, shapeFactor_placed]
    refine evalJoins_placed js hjs _ hsjs _ _ env (by rwa [names_shapeFactor]) ?_ fun l hl => ?_
    · rw [names_shapeFactor]
      exact (exposedFactor_sublist f rel).subset
    · rw [names_shapeFactor, names_evalFactor db none _ env l hl, namesFactor_placed]

/-- The joins of a source, from left rows on which the conditions for `X` are owed. -/
theorem evalJoins_placed : (js : List Join) → FragJoins js → (X : List Ident) → SafeJoins f X js →
    (sh : Shape) → (L : List (Env D)) → (env : Env D) →
    (sh.map Prod.fst ++ namesJoins js).Nodup → X ⊆ sh.map Prod.fst →
    (∀ l ∈ L, names l = sh.map Prod.fst) →
    evalJoins db (some f) js sh (L.filter (passes f X)) env =
      (evalJoins db none (f.placedJoins js) sh L env).filter (passes f (X ++ f.exposedJoins js))
  | [], _, X, _, _, L, _, _, _, _ => by
    show L.filter (passes f X) = L.filter (passes f (X ++ []))
    rw [List.append_nil]
  | .mk rel (.join kind c) :: js, ⟨hk, hrel, hc, hjs⟩, X, ⟨hsrel, hsafe, hsjs⟩, sh, L, env,
      hn, hX, hL => by
    obtain ⟨_, hnr, hdis⟩ := List.nodup_append.mp hn
    have hR : ∀ r ∈ evalFactor db none (f.placedFactor rel) env,
        names r = (shapeFactor db rel).map Prod.fst := fun r hr => by
      rw [names_shapeFactor, names_evalFactor db none _ env r hr, namesFactor_placed]
    have hY : f.exposedFactor rel ⊆ (shapeFactor db rel).map Prod.fst := by
      rw [names_shapeFactor]
      exact (exposedFactor_sublist f rel).subset
    have hd : ∀ q ∈ f.exposedFactor rel, q ∉ sh.map Prod.fst := fun q hq hq' =>
      hdis q hq' q (List.mem_append_left _ ((exposedFactor_sublist f rel).subset hq)) rfl
    rw [evalJoins_cons_join, placedJoins_cons_join, evalJoins_cons_join, exposedJoins_cons,
      evalFactor_placed rel hrel hsrel (List.nodup_append.mp hnr).1 env, shapeFactor_placed,
      joinRows_placed db f hk hc hsafe env hL hX hY hR hd, ← List.append_assoc]
    refine evalJoins_placed js hjs _ hsjs _ _ env
      (by rw [List.map_append, List.append_assoc, names_shapeFactor]; exact hn)
      ?_ fun a ha => ?_
    · rw [List.map_append]
      refine List.append_subset.mpr ⟨List.subset_append_of_subset_left _ hX, ?_⟩
      split
      · exact List.subset_append_of_subset_right _ hY
      · exact List.nil_subset _
    · rw [List.map_append]
      exact names_of_mem_joinRows hL hR ha
  | .mk _ .crossApply :: _, hf, _, _, _, _, _, _, _, _
  | .mk _ .outerApply :: _, hf, _, _, _, _, _, _, _, _
  | .mk _ (.asOf ..) :: _, hf, _, _, _, _, _, _, _, _ => (hf : False).elim

/-- A table reads the rows the condition admits; a join group, what its source does. -/
theorem evalFactor_placed : (rel : TableFactor) → FragFactor rel → SafeFactor f rel →
    (namesFactor rel).Nodup → (env : Env D) →
    evalFactor db (some f) rel env =
      (evalFactor db none (f.placedFactor rel) env).filter (passes f (f.exposedFactor rel))
  | .table _ _ _ aliasName .., ⟨hname, _⟩, _, _, _ =>
    evalFactor_table_placed db f hname aliasName
  | .nested t _, ⟨_, ht⟩, hs, hn, env => evalTwj_placed t ht hs hn env
  | .derived .., hf, _, _, _ | .unnest .., hf, _, _, _ | .function .., hf, _, _, _
  | .tableFunction .., hf, _, _, _ | .columnsFunction .., hf, _, _, _ | .pivot .., hf, _, _, _
  | .unpivot .., hf, _, _, _ => (hf : False).elim

theorem evalOptPred_placed : (w : Option Expr) → FragOptPred w → SafeOptPred f w → (env : Env D) →
    evalOptPred db none (f.placedOptExpr w) env = evalOptPred db (some f) w env
  | none, _, _, _ => rfl
  | some e, hf, hs, env => evalPred_placed e hf hs env

/-- A condition of the fragment holds of the same rows once scoped: its subqueries
return the same rows. -/
theorem evalPred_placed : (e : Expr) → FragPred e → SafePred f e → (env : Env D) →
    evalPred db none (f.placedExpr e) env = evalPred db (some f) e env
  | e, hf, hs, env => by
    cases e with
    | binary l op r =>
      cases op with
      | and =>
        show and3 _ _ = and3 _ _
        rw [evalPred_placed l hf.1 hs.1 env, evalPred_placed r hf.2 hs.2 env]
      | or =>
        show or3 _ _ = or3 _ _
        rw [evalPred_placed l hf.1 hs.1 env, evalPred_placed r hf.2 hs.2 env]
      | gt | lt | ge | le | eq | neq =>
        show cmp3 D _ _ _ = cmp3 D _ _ _
        rw [placedExpr_scalar f l hf.1, placedExpr_scalar f r hf.2]
      | _ => exact (hf : False).elim
    | unary op e =>
      cases op with
      | not =>
        show not3 _ = not3 _
        rw [evalPred_placed e hf hs env]
      | _ => exact (hf : False).elim
    | nested e => exact evalPred_placed e hf hs env
    | «exists» n q =>
      show some _ = some _
      rw [evalQuery_placed q hf hs env]
    | inSubquery e n q =>
      show (if n then not3 else id) (in3 D (evalScalar (f.placedExpr e) env)
          ((evalQuery db none (f.placedQuery q) env).map
            fun b => evalScalar (firstItem (f.placedQuery q)) (b ++ env))) = _
      rw [placedExpr_scalar f e hf.1, evalQuery_placed q hf.2 hs env, firstItem_placed]
      rfl
    | value v => cases v <;> rfl
    | _ => exact (hf : False).elim

end

end Main

/-- A query of the fragment in which no join that keeps its right side receives a
condition, once scoped, returns on every database the rows it returns when each
table the filter refers to reads only the rows the condition admits. -/
theorem scope_returns_filtered_rows (f : Filter) (q : Query) (hq : FragQuery q)
    (hs : SafeQuery f q) (bound : List Ident) (s' : Statement)
    (h : f.scope (.query q) = (bound, .ok s')) :
    ∃ q', s' = .query q' ∧
      ∀ (D : Domain) (db : Database D), evalQuery db none q' [] = evalQuery db (some f) q [] := by
  obtain ⟨hs', -, -⟩ := f.statement_succeeds (.query q) [] bound s' (Filter.run_of_scope h)
  exact ⟨f.placedQuery q, hs', fun _ db => evalQuery_placed db f q hq hs []⟩

/-! ## Scoping a join of `users` and `tenant` -/

/-- The filter that scopes `tenant` to the rows with `tenant_id = 'T1'`. -/
def tenantFilter : Filter :=
  ⟨⟨"tenant", ["tenant"]⟩, ⟨⟨"tenant", none⟩, ⟨"tenant_id", none⟩, .text "T1"⟩⟩

/-- `u.tid = t.id` -/
def usersOnTenant : Expr :=
  .binary (.compound [⟨"u", none⟩, ⟨"tid", none⟩]) .eq (.compound [⟨"t", none⟩, ⟨"id", none⟩])

/-- `SELECT * FROM users u JOIN tenant t c`, with the join of the given kind. -/
def usersJoinTenant (kind : JoinKind) (c : JoinConstraint) : Query :=
  let ref := fun (name a : String) =>
    TableFactor.table ⟨[⟨name, none⟩]⟩ [] none (some ⟨true, ⟨a, none⟩, []⟩) [] [] none none false
  .mk false []
    (.select (.mk .none none false [.wildcard .wildcard []]
      [.mk (ref "users" "u") [.mk (ref "tenant" "t") (.join kind c)]]
      none (.keys [] []) none [] none false none [] []))
    [] .none none [] none

/-- An inner join takes the condition for `tenant` into its `ON`, and returns the rows
of the join of `users` with the rows of `tenant` the condition admits. -/
theorem scope_inner_join_returns_filtered_rows :
    FragQuery (usersJoinTenant .inner (.on usersOnTenant)) ∧
      SafeQuery tenantFilter (usersJoinTenant .inner (.on usersOnTenant)) ∧
      tenantFilter.scope (.query (usersJoinTenant .inner (.on usersOnTenant))) =
        ([⟨"t", none⟩], .ok (.query (usersJoinTenant .inner (.on (.binary (.nested usersOnTenant)
          .and (.binary (.compound [⟨"t", none⟩, ⟨"tenant_id", none⟩]) .eq
            (Literal.text "T1").toExpr)))))) ∧
      ∃ q', Statement.query (usersJoinTenant .inner (.on (.binary (.nested usersOnTenant) .and
          (.binary (.compound [⟨"t", none⟩, ⟨"tenant_id", none⟩]) .eq
            (Literal.text "T1").toExpr)))) = .query q' ∧
        ∀ (D : Domain) (db : Database D), evalQuery db none q' [] =
          evalQuery db (some tenantFilter) (usersJoinTenant .inner (.on usersOnTenant)) [] := by
  have hq : FragQuery (usersJoinTenant .inner (.on usersOnTenant)) := by
    simp [usersJoinTenant, usersOnTenant, FragQuery, FragSetExpr, FragSelect, FragFrom, FragTwj,
      FragJoins, FragFactor, FragConstraint, FragOptPred, PlainPred, IsScalar, IsPlainItem,
      fragmentKinds, namesFrom, namesTwj, namesJoins, namesFactor, rangeName, qualifier]
  have hs : SafeQuery tenantFilter (usersJoinTenant .inner (.on usersOnTenant)) := by
    simp [usersJoinTenant, SafeQuery, SafeSetExpr, SafeSelect, SafeFrom, SafeTwj, SafeJoins,
      SafeFactor, SafeOptPred, keepsRight]
  have h : tenantFilter.scope (.query (usersJoinTenant .inner (.on usersOnTenant))) =
      ([⟨"t", none⟩], .ok (.query (usersJoinTenant .inner (.on (.binary (.nested usersOnTenant)
        .and (.binary (.compound [⟨"t", none⟩, ⟨"tenant_id", none⟩]) .eq
          (Literal.text "T1").toExpr)))))) := rfl
  exact ⟨hq, hs, h, scope_returns_filtered_rows tenantFilter _ hq hs _ _ h⟩

/-- Text values, equal when they are the same text. -/
def textDomain : Domain where
  V := String
  lit := fun
    | .singleQuoted s => some s
    | _ => none
  cmp := fun op a b => op == .eq && a == b

/-- An empty `users` table, and a `tenant` table with a row for each of two tenants. -/
def twoTenants : Database textDomain where
  rows := fun name =>
    if name = ⟨[⟨"tenant", none⟩]⟩ then
      [fun c => if c = ⟨"tenant_id", none⟩ then some "T1" else none,
        fun c => if c = ⟨"tenant_id", none⟩ then some "T2" else none]
    else []
  columns := fun _ => [⟨"tenant_id", none⟩]

/-- A right join takes the condition for `tenant` into its `ON`, where it removes no
row of `tenant`: the scoped query returns the other tenant's row as well. -/
theorem scope_right_join_keeps_other_tenant :
    tenantFilter.scope (.query (usersJoinTenant .right (.on usersOnTenant))) =
        ([⟨"t", none⟩], .ok (.query (tenantFilter.placedQuery
          (usersJoinTenant .right (.on usersOnTenant))))) ∧
      (evalQuery twoTenants none
        (tenantFilter.placedQuery (usersJoinTenant .right (.on usersOnTenant))) []).length = 2 ∧
      (evalQuery twoTenants (some tenantFilter)
        (usersJoinTenant .right (.on usersOnTenant)) []).length = 1 :=
  ⟨rfl, by decide, by decide⟩

end SqlScope.Scope.Rows
